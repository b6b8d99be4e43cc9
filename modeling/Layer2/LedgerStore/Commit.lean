import Layer2.LedgerStore.Init

/-! # What one commit does

`submitBlock` is cut along its fault points. Whatever fault it meets, it leaves the
in-memory fields either staged (header index entry written, flush counter moved) or
committed (current-block pointer moved as well), and each sub-store's log either as it
was or extended by exactly the batch staged for the block. `CommitStop` names how far the
commit ran; every later result about commits reads this one description.
-/

namespace Layer2.LedgerStore

@[simp] theorem SubStore.putAll_nil {W : Type} (s : SubStore W) : s.putAll [] = s := by
  cases s; simp [SubStore.putAll]

def flushWrites (m : LedgerStoreImp) : List BlockWrite :=
  if m.currBlockHeight - m.storedIndexCount < HEADER_INDEX_BATCH_SIZE then []
  else [.saveHeaderIndexList m.storedIndexCount ((List.range HEADER_INDEX_BATCH_SIZE.toNat).map
    fun i => m.GetBlockHash (m.storedIndexCount + UInt32.ofNat i))]

def flushMem (m : LedgerStoreImp) : LedgerStoreImp :=
  if m.currBlockHeight - m.storedIndexCount < HEADER_INDEX_BATCH_SIZE then m
  else { m with storedIndexCount := m.storedIndexCount + HEADER_INDEX_BATCH_SIZE }

def flushLog (m : LedgerStoreImp) : List LedgerStoreImp :=
  if m.currBlockHeight - m.storedIndexCount < HEADER_INDEX_BATCH_SIZE then [] else [flushMem m]

theorem saveHeaderIndexList_apply (l : Ledger) :
    saveHeaderIndexList l =
      .ok () { l with
        blockStore := l.blockStore.putAll (flushWrites l.mem)
        mem := flushMem l.mem
        memWrites := l.memWrites ++ flushLog l.mem } := by
  simp only [saveHeaderIndexList, bind_apply, get_apply, modifyMem_apply, modifyBlockStore_apply,
    pure_apply, flushWrites, flushMem, flushLog]
  split <;> simp [SubStore.put, SubStore.putAll]

/-- How far a commit runs when it meets `fault`. -/
inductive CommitStop
  | staging
  | blockCommitted
  | eventCommitted
  | done
  deriving DecidableEq, Repr

def commitStop : Option FailPoint → CommitStop
  | none | some .getHeader => .done
  | some .eventCommit => .blockCommitted
  | some .stateCommit => .eventCommitted
  | some _ => .staging

section

variable (C : Collaborators)

def indexedMem (m : LedgerStoreImp) (block : Block) : LedgerStoreImp :=
  { m with headerIndex := m.headerIndex.insert block.header.height (block.hash C) }

def stageMem (m : LedgerStoreImp) (block : Block) : LedgerStoreImp := flushMem (indexedMem C m block)

def committedMem (m : LedgerStoreImp) (block : Block) : LedgerStoreImp :=
  { stageMem C m block with currBlockHash := block.hash C, currBlockHeight := block.header.height }

theorem stageMem_eq (m : LedgerStoreImp) (block : Block) :
    stageMem C m block =
      { m with
        headerIndex := m.headerIndex.insert block.header.height (block.hash C)
        storedIndexCount := if m.currBlockHeight - m.storedIndexCount < HEADER_INDEX_BATCH_SIZE
          then m.storedIndexCount else m.storedIndexCount + HEADER_INDEX_BATCH_SIZE } := by
  unfold stageMem flushMem indexedMem
  split <;> rfl

@[simp] theorem stageMem_currBlockHeight (m : LedgerStoreImp) (block : Block) :
    (stageMem C m block).currBlockHeight = m.currBlockHeight := by
  rw [stageMem_eq]

@[simp] theorem stageMem_currBlockHash (m : LedgerStoreImp) (block : Block) :
    (stageMem C m block).currBlockHash = m.currBlockHash := by
  rw [stageMem_eq]

@[simp] theorem stageMem_closing (m : LedgerStoreImp) (block : Block) :
    (stageMem C m block).closing = m.closing := by
  rw [stageMem_eq]

theorem stageMem_storedIndexCount (m : LedgerStoreImp) (block : Block) :
    (stageMem C m block).storedIndexCount =
      if m.currBlockHeight - m.storedIndexCount < HEADER_INDEX_BATCH_SIZE then m.storedIndexCount
      else m.storedIndexCount + HEADER_INDEX_BATCH_SIZE := by
  rw [stageMem_eq]

@[simp] theorem stageMem_headerIndex (m : LedgerStoreImp) (block : Block) :
    (stageMem C m block).headerIndex = (indexedMem C m block).headerIndex := by
  rw [stageMem_eq]; rfl

def blockBatch (m : LedgerStoreImp) (block : Block) : List BlockWrite :=
  flushWrites (indexedMem C m block) ++
    [.saveCurrentBlock block.header.height (block.hash C),
     .saveBlockHash block.header.height (block.hash C), .saveBlock block]

def stateBatch (block : Block) (result : ExecuteResult) : List StateWrite :=
  [.addStateMerkleTreeRoot block.header.height result.hash,
   .addBlockMerkleTreeRoot block.header.transactionsRoot,
   .saveCurrentBlock block.header.height (block.hash C),
   .saveLayer2States block.header.height result.updatedAccountState] ++ rawWrites result.writeSet

def eventBatch (block : Block) (result : ExecuteResult) : List EventWrite :=
  result.notify.map (fun n => .saveNotify n.txHash n) ++
    (if block.transactions.length > 0 then
      [.saveEventNotifyByBlock block.header.height (block.transactions.map C.txHash)] else []) ++
    [.saveCurrentBlock block.header.height (block.hash C)]

theorem saveBlockToEventStore_apply (block : Block) (l : Ledger) :
    saveBlockToEventStore C block l = .ok ()
      { l with
        eventStore := l.eventStore.putAll
          ((if block.transactions.length > 0 then
            [.saveEventNotifyByBlock block.header.height (block.transactions.map C.txHash)] else []) ++
           [.saveCurrentBlock block.header.height (block.hash C)]) } := by
  simp only [saveBlockToEventStore, modifyEventStore_apply, List.length_map]
  split <;> simp [SubStore.put, SubStore.putAll]

def memAfterCommit (m : LedgerStoreImp) (block : Block) : CommitStop → LedgerStoreImp
  | .done => committedMem C m block
  | _ => stageMem C m block

/-- The in-memory fields as each write of a commit leaves them: `setHeaderIndex`, the flush
counter when a flush is due, and `setCurrentBlock` once the commit is done. -/
def memLogAfterCommit (m : LedgerStoreImp) (block : Block) : CommitStop → List LedgerStoreImp
  | .done => indexedMem C m block :: flushLog (indexedMem C m block) ++ [committedMem C m block]
  | _ => indexedMem C m block :: flushLog (indexedMem C m block)

def blockLogAfterCommit (l : Ledger) (block : Block) : CommitStop → List BlockWrite
  | .staging => l.blockStore.log
  | _ => l.blockStore.log ++ blockBatch C l.mem block

def eventLogAfterCommit (l : Ledger) (block : Block) (result : ExecuteResult) :
    CommitStop → List EventWrite
  | .staging | .blockCommitted => l.eventStore.log
  | _ => l.eventStore.log ++ eventBatch C block result

def stateLogAfterCommit (l : Ledger) (block : Block) (result : ExecuteResult) :
    CommitStop → List StateWrite
  | .done => l.stateStore.log ++ stateBatch C block result
  | _ => l.stateStore.log

def blockRootAccepted (l : Ledger) (block : Block) : Bool :=
  match GetBlockRootWithNewTxRoots C l.mem l.stateStore.log block.header.height
      [block.header.transactionsRoot] with
  | .ok r => block.header.height == 0 || r == block.header.blockRoot
  | .error _ => false

theorem blockRootAccepted_genesis {l : Ledger} {block : Block} (hg : block.header.height = 0)
    (h0 : l.mem.currBlockHeight = 0) : blockRootAccepted C l block = true := by
  simp [blockRootAccepted, GetBlockRootWithNewTxRoots, hg, h0]

/-- **The slice is in range unless the list is empty at height zero.** For a list of roots
shorter than `2^32`, not empty or not starting at height zero, `GetBlockRootWithNewTxRoots`
returns `UINT256_EMPTY` early or passes on the roots from index `currBlockHeight + 1 -
startHeight`, which lies within the list: those of the heights `currBlockHeight + 1` up to
`startHeight + len - 1`. -/
theorem GetBlockRootWithNewTxRoots_in_range (m : LedgerStoreImp) (stateLog : List StateWrite)
    (startHeight : UInt32) (txRoots : List Uint256) (hlen : txRoots.length < 4294967296)
    (hne : txRoots ≠ [] ∨ startHeight ≠ 0) :
    GetBlockRootWithNewTxRoots C m stateLog startHeight txRoots = .ok UINT256_EMPTY ∨
      startHeight.toNat ≤ m.currBlockHeight.toNat + 1 ∧
        m.currBlockHeight.toNat + 1 ≤ startHeight.toNat + txRoots.length ∧
        GetBlockRootWithNewTxRoots C m stateLog startHeight txRoots =
          .ok (C.blockMerkleRoot (StateStore.blockRoots stateLog ++
            txRoots.drop (m.currBlockHeight.toNat + 1 - startHeight.toNat))) := by
  have hne' : 0 < txRoots.length + startHeight.toNat := by
    rcases hne with h | h
    · exact Nat.lt_add_right _ (List.length_pos.2 h)
    · exact Nat.lt_add_left _ (Nat.pos_of_ne_zero fun h0 => h ((u32_eq_iff _ _).2 h0))
  have := u32_toNat_lt m.currBlockHeight
  have := u32_toNat_lt startHeight
  unfold GetBlockRootWithNewTxRoots
  dsimp only
  split_ifs with h1 h2 h3
  · exact .inl rfl
  · exact .inl rfl
  · simp only [u32_lt_iff, gt_iff_lt, u32_toNat_add, u32_toNat_sub, u32_toNat_one,
      u32_toNat_UInt32_ofNat] at h1 h2 h3
    have hi : (m.currBlockHeight + 1 - startHeight).toNat =
        m.currBlockHeight.toNat + 1 - startHeight.toNat := by
      simp only [u32_toNat_add, u32_toNat_sub, u32_toNat_one]; omega
    refine .inr ⟨by omega, by omega, by rw [hi]⟩
  · simp only [u32_lt_iff, gt_iff_lt, u32_toNat_add, u32_toNat_sub, u32_toNat_one,
      u32_toNat_UInt32_ofNat] at h1 h2 h3
    omega

theorem one_root_in_range :
    ([1] : List Uint256).length < 4294967296 ∧ (([1] : List Uint256) ≠ [] ∨ (1 : UInt32) ≠ 0) ∧
      (GetBlockRootWithNewTxRoots sampleCollaborators Ledger.empty.mem [] 1 [1] = .ok UINT256_EMPTY ∨
        (1 : UInt32).toNat ≤ Ledger.empty.mem.currBlockHeight.toNat + 1 ∧
          Ledger.empty.mem.currBlockHeight.toNat + 1 ≤ (1 : UInt32).toNat + ([1] : List Uint256).length ∧
          GetBlockRootWithNewTxRoots sampleCollaborators Ledger.empty.mem [] 1 [1] =
            .ok (sampleCollaborators.blockMerkleRoot (StateStore.blockRoots [] ++
              ([1] : List Uint256).drop (Ledger.empty.mem.currBlockHeight.toNat + 1 - (1 : UInt32).toNat)))) :=
  ⟨by decide, .inl (by decide),
    GetBlockRootWithNewTxRoots_in_range sampleCollaborators Ledger.empty.mem [] 1 [1] (by decide)
      (.inl (by decide))⟩

/-- An empty list of roots at start height zero passes the guard, whose
`startHeight + uint32(len(txRoots)) - 1` wraps to `2^32 - 1`, and the slice from
`currBlockHeight + 1` runs past its end. -/
theorem empty_roots_slice_panics (m : LedgerStoreImp) (stateLog : List StateWrite) :
    GetBlockRootWithNewTxRoots C { m with currBlockHeight := 5 } stateLog 0 [] =
      .error "runtime error: slice bounds out of range" := by
  unfold GetBlockRootWithNewTxRoots
  dsimp only
  rw [if_neg (by decide), if_neg (by decide), if_neg (by decide)]

theorem submitBlock_of_not_accepted {fault : Option FailPoint} {block : Block}
    {layer2Msg : Option Layer2State} {result : ExecuteResult} {l : Ledger}
    (h : blockRootAccepted C l block = false) :
    ∃ e, submitBlock C fault block layer2Msg result l = .error e l := by
  unfold blockRootAccepted at h
  simp only [submitBlock, bind_apply, get_apply]
  split at h
  · rename_i r hr
    have hc : block.header.height ≠ 0 ∧ r ≠ block.header.blockRoot := by simpa using h
    exact ⟨"wrong block root", by simp [hr, hc]⟩
  · rename_i e hr
    exact ⟨e, by simp [hr]⟩

/-- **Commit spec.** Once the block root is accepted, the fault decides how far the commit
runs, and with it the in-memory fields and every sub-store's log. -/
theorem submitBlock_effect {fault : Option FailPoint} {block : Block}
    {layer2Msg : Option Layer2State} {result : ExecuteResult} {l : Ledger}
    (h : blockRootAccepted C l block = true) :
    let r := submitBlock C fault block layer2Msg result l
    (ledgerAfter r).mem = memAfterCommit C l.mem block (commitStop fault) ∧
    (ledgerAfter r).memWrites = l.memWrites ++ memLogAfterCommit C l.mem block (commitStop fault) ∧
    (ledgerAfter r).blockStore.log = blockLogAfterCommit C l block (commitStop fault) ∧
    (ledgerAfter r).eventStore.log = eventLogAfterCommit C l block result (commitStop fault) ∧
    (ledgerAfter r).stateStore.log = stateLogAfterCommit C l block result (commitStop fault) ∧
    (succeeded r = true ↔ commitStop fault = .done) := by
  unfold blockRootAccepted at h
  split at h
  swap
  · exact absurd h Bool.false_ne_true
  rename_i r hr
  have hok : ¬ (block.header.height ≠ 0 ∧ r ≠ block.header.blockRoot) := by
    simp only [Bool.or_eq_true, beq_iff_eq] at h; tauto
  -- the steps every fault goes through are unfolded once; the fault then decides each failAt
  simp only [submitBlock, bind_apply, get_apply, hr, hok, if_false, pure_bind,
    SubStore.newBatch, withContext_apply, saveBlockToBlockStore, setHeaderIndex, modifyMem_apply,
    saveHeaderIndexList_apply, modifyBlockStore_apply, modify_apply, saveBlockToStateStore,
    modifyEventStore_apply, modifyStateStore_apply, saveBlockToEventStore_apply, setCurrentBlock,
    SubStore.commitTo, SubStore.put, SubStore.putAll]
  rcases fault with _ | p
  all_goals try cases p
  all_goals simp only [failAt_apply, Option.some.injEq, reduceCtorEq, if_true, if_false,
    bind_apply, ledgerAfter_error, ledgerAfter_ok, succeeded_error,
    succeeded_ok, commitStop, memAfterCommit, memLogAfterCommit, committedMem, stageMem, indexedMem,
    blockLogAfterCommit, eventLogAfterCommit, stateLogAfterCommit, blockBatch, eventBatch,
    stateBatch, List.append_assoc, List.cons_append, List.nil_append, List.singleton_append,
    and_self, ne_eq, gt_iff_lt, Bool.false_eq_true, String.reduceAppend, withContext_apply]

/-- What `verifyHeader` checks of a non-genesis header against the Block Store: its parent,
found by hash, is one height below, older, and commits to this header's signers. -/
def ParentLinked (log : List BlockWrite) (header : Header) : Prop :=
  ∃ p, BlockStore.getHeader C log header.prevBlockHash = some p ∧ p.height + 1 = header.height ∧
    p.timestamp < header.timestamp ∧ C.addressFromBookkeepers header.bookkeepers = .ok p.nextBookkeeper

theorem verifyHeader_ok {fault : Option FailPoint} {log : List BlockWrite} {header : Header}
    (h : verifyHeader C fault log header = .ok ()) : header.height = 0 ∨ ParentLinked C log header := by
  unfold verifyHeader at h
  by_cases h0 : header.height = 0
  · exact .inl h0
  refine .inr ?_
  simp only [h0, if_false, bind, Except.bind, pure, Except.pure, throw, throwThe,
    MonadExceptOf.throw] at h
  split at h
  · simp at h
  split at h
  swap
  · simp at h
  rename_i _ p hp
  refine ⟨p, hp, ?_⟩
  by_cases h1 : p.height + 1 = header.height
  · by_cases h2 : header.timestamp ≤ p.timestamp
    · simp [h1, h2] at h
    · cases ha : C.addressFromBookkeepers header.bookkeepers with
      | error e => simp [h1, h2, ha] at h
      | ok a =>
        by_cases h3 : p.nextBookkeeper = a
        · exact ⟨h1, UInt32.not_le.mp h2, by rw [h3]⟩
        · simp [h1, h2, ha, h3] at h
  · simp [h1] at h

/-- The checks `SubmitBlock` makes before it commits, all passed. -/
def submitAccepted (fault : Option FailPoint) (block : Block) (layer2State : Option Layer2State)
    (l : Ledger) : Bool :=
  !l.mem.closing && decide (l.mem.currBlockHeight < block.header.height) &&
    decide (block.header.height = l.mem.currBlockHeight + 1) &&
    (verifyHeader C fault l.blockStore.log block.header).isOk &&
    match layer2State with
    | none => true
    | some l2 => decide (l2.height = l.mem.currBlockHeight + 1) &&
        decide (l2.version = C.CURR_LAYER2_STATE_VERSION) &&
        (verifyLayer2State C l2 block.header.bookkeepers).isOk

theorem isOk_iff_eq_ok {x : Except String Unit} : x.isOk = true ↔ x = .ok () := by
  cases x <;> simp [Except.isOk, Except.toBool]

theorem submitAccepted_checks {fault : Option FailPoint} {block : Block}
    {layer2State : Option Layer2State} {l : Ledger}
    (h : submitAccepted C fault block layer2State l = true) :
    block.header.height.toNat = l.mem.currBlockHeight.toNat + 1 ∧
      verifyHeader C fault l.blockStore.log block.header = .ok () := by
  simp only [submitAccepted, Bool.and_eq_true, decide_eq_true_eq, isOk_iff_eq_ok] at h
  obtain ⟨⟨⟨⟨-, hlt⟩, heq⟩, hv⟩, -⟩ := h
  rw [heq, u32_lt_iff] at hlt
  rw [heq]
  simp only [u32_toNat_add, u32_toNat_one] at hlt ⊢
  exact ⟨by omega, hv⟩

theorem SubmitBlock_of_accepted {fault : Option FailPoint} {block : Block}
    {layer2State : Option Layer2State} {result : ExecuteResult} {l : Ledger}
    (h : submitAccepted C fault block layer2State l = true) :
    SubmitBlock C fault block layer2State result l =
      withContext "saveBlock error " (submitBlock C fault block layer2State result) l := by
  simp only [submitAccepted, Bool.and_eq_true, Bool.not_eq_true', decide_eq_true_eq,
    isOk_iff_eq_ok] at h
  obtain ⟨⟨⟨⟨hc, hlt⟩, heq⟩, hv⟩, hl2⟩ := h
  rw [heq] at hlt
  have hle : ¬ l.mem.currBlockHeight + 1 ≤ l.mem.currBlockHeight := UInt32.not_le.mpr hlt
  simp only [SubmitBlock, ne_eq, pure_bind, ite_not, bind_apply, get_apply, hc, heq, hle, hv,
    Bool.false_eq_true, ↓reduceIte, not_true_eq_false]
  cases layer2State with
  | none => rfl
  | some l2 =>
    simp only [Bool.and_eq_true, decide_eq_true_eq, isOk_iff_eq_ok] at hl2
    obtain ⟨⟨h1, h2⟩, h3⟩ := hl2
    simp only [h1, h2, h3, not_true_eq_false, ↓reduceIte, pure_bind]

theorem SubmitBlock_of_not_accepted {fault : Option FailPoint} {block : Block}
    {layer2State : Option Layer2State} {result : ExecuteResult} {l : Ledger}
    (h : submitAccepted C fault block layer2State l = false) :
    ledgerAfter (SubmitBlock C fault block layer2State result l) = l := by
  simp only [SubmitBlock, ne_eq, pure_bind, ite_not, bind_apply, get_apply]
  by_cases hc : l.mem.closing = true
  · simp only [hc, ↓reduceIte, throw_apply, bind_apply, ledgerAfter_error]
  by_cases hle : block.header.height ≤ l.mem.currBlockHeight
  · simp only [hc, Bool.false_eq_true, ↓reduceIte, hle, pure_apply, bind_apply, ledgerAfter_ok]
  by_cases heq : block.header.height = l.mem.currBlockHeight + 1
  swap
  · simp only [hc, Bool.false_eq_true, ↓reduceIte, hle, heq, throw_apply, pure_apply, bind_apply,
      ledgerAfter_error]
  have hlt := UInt32.not_le.mp hle
  rw [heq] at hle hlt
  cases hv : verifyHeader C fault l.blockStore.log block.header with
  | error e =>
    simp only [heq, hc, Bool.false_eq_true, ↓reduceIte, hle, hv, throw_apply, pure_apply, bind_apply,
      ledgerAfter_error]
  | ok u =>
    cases layer2State with
    | none => simp [submitAccepted, hc, hlt, heq, hv, Except.isOk, Except.toBool] at h
    | some l2 =>
      by_cases h1 : l2.height = l.mem.currBlockHeight + 1
      · by_cases h2 : l2.version = C.CURR_LAYER2_STATE_VERSION
        · cases h3 : verifyLayer2State C l2 block.header.bookkeepers with
          | error e =>
            simp only [heq, h1, h2, not_true_eq_false, ↓reduceIte, h3, hc, Bool.false_eq_true, hle,
              hv, throw_apply, pure_apply, bind_apply, ledgerAfter_error]
          | ok u =>
            simp [submitAccepted, hc, hlt, heq, hv, h1, h2, h3, Except.isOk, Except.toBool] at h
        · simp only [heq, h1, h2, ↓reduceIte, hc, Bool.false_eq_true, hle, hv, throw_apply,
            pure_apply, bind_apply, ledgerAfter_error]
      · simp only [heq, hc, Bool.false_eq_true, ↓reduceIte, hle, hv, h1, throw_apply, pure_apply,
          bind_apply, ledgerAfter_error]

/-- **SubmitBlock spec.** A call whose checks and block root pass runs the commit; any other
call leaves the ledger as it was. -/
theorem SubmitBlock_ledger (fault : Option FailPoint) (block : Block)
    (layer2State : Option Layer2State) (result : ExecuteResult) (l : Ledger) :
    ledgerAfter (SubmitBlock C fault block layer2State result l) =
      if submitAccepted C fault block layer2State l && blockRootAccepted C l block then
        ledgerAfter (submitBlock C fault block layer2State result l) else l := by
  cases ha : submitAccepted C fault block layer2State l
  · simpa using SubmitBlock_of_not_accepted C ha
  · rw [SubmitBlock_of_accepted C ha, ledgerAfter_withContext]
    cases hr : blockRootAccepted C l block
    · obtain ⟨e, he⟩ := @submitBlock_of_not_accepted C fault block layer2State result l hr
      simp [he]
    · simp

theorem SubmitBlock_failed (fault : Option FailPoint) (block : Block)
    (layer2State : Option Layer2State) (result : ExecuteResult) (l : Ledger)
    (h : succeeded (SubmitBlock C fault block layer2State result l) = false)
    (ha : (submitAccepted C fault block layer2State l && blockRootAccepted C l block) = true) :
    commitStop fault ≠ .done := by
  simp only [Bool.and_eq_true] at ha
  rw [SubmitBlock_of_accepted C ha.1, succeeded_withContext] at h
  intro hd
  have := (@submitBlock_effect C fault block layer2State result l ha.2).2.2.2.2.2
  rw [this.mpr hd] at h
  exact Bool.false_ne_true h.symm

end

end Layer2.LedgerStore
