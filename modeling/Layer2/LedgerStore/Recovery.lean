import Layer2.LedgerStore.Run

/-! # Recovery

`recoverStore` replays the heights from the State Store's height `s` up to, and not
including, the Block Store's height `b`. The block at `s`, which the State Store already
holds, is executed and committed a second time, and the block at `b` never is: a recovery
that succeeds leaves the State Store at the block the Block Store indexes for `b - 1`.
-/

namespace Layer2.LedgerStore

/-- The heights the State Store's log commits, in order: one for each saved current block. -/
def stateCommittedHeights (log : List StateWrite) : List UInt32 :=
  log.filterMap fun | .saveCurrentBlock h _ => some h | _ => none

section

variable (C : Collaborators) (stateHashCheckHeight : UInt32)

theorem getCurrentBlock_append_stateBatch (log : List StateWrite) (block : Block)
    (result : ExecuteResult) :
    StateStore.getCurrentBlock (log ++ stateBatch C block result) =
      some (block.hash C, block.header.height) := by
  have hraw : lastSome StateWrite.currentBlock? (rawWrites result.writeSet) = none := by
    refine lastSome_eq_none fun w hw => ?_
    obtain ⟨e, -, rfl⟩ := List.mem_map.mp hw
    split <;> rfl
  unfold StateStore.getCurrentBlock stateBatch
  rw [lastSome_append, lastSome_append, hraw]
  simp [lastSome, StateWrite.currentBlock?]

theorem saveBlockToStateStore_ok {fault : Option FailPoint} {block : Block}
    {result : ExecuteResult} {l l' : Ledger} {u : Unit}
    (h : saveBlockToStateStore C fault block result l = .ok u l') :
    l'.stateStore = l.stateStore.putAll (stateBatch C block result) ∧
      l'.eventStore = l.eventStore.putAll (result.notify.map fun n => .saveNotify n.txHash n) ∧
      l'.blockStore = l.blockStore ∧ l'.mem = l.mem := by
  simp only [saveBlockToStateStore, modifyEventStore_bind_apply, failAt_bind_apply,
    modifyStateStore_bind_apply, modifyStateStore_apply] at h
  split_ifs at h
  cases h
  simp [SubStore.put, SubStore.putAll, stateBatch]

theorem recoverBlock_ok {fault : Option (UInt32 × FailPoint)} {i : UInt32} {l l' : Ledger}
    {u : Unit} (h : recoverBlock C stateHashCheckHeight fault i l = .ok u l') :
    ∃ blockHash block result, BlockStore.getBlockHash l.blockStore.log i = some blockHash ∧
      BlockStore.getBlock C l.blockStore.log blockHash = some block ∧
      l'.stateStore.log = l.stateStore.log ++ stateBatch C block result ∧
      l'.blockStore = l.blockStore ∧ l'.mem = l.mem := by
  simp only [recoverBlock, bind_apply, get_apply] at h
  cases hx : BlockStore.getBlockHash l.blockStore.log i with
  | none => simp [hx] at h
  | some blockHash =>
  cases hb : BlockStore.getBlock C l.blockStore.log blockHash with
  | none => simp [hx, hb] at h
  | some block =>
  simp only [hx, hb] at h
  cases hr : executeBlock C stateHashCheckHeight l.stateStore.log block with
  | error e => simp [hr, liftExcept] at h
  | ok result =>
    simp only [hr, liftExcept, modifyEventStore_bind_apply, modifyStateStore_bind_apply,
      pure_bind] at h
    obtain ⟨_, l₃, hs, h⟩ := bind_eq_ok h
    obtain ⟨hst, -, hbs, hm⟩ := saveBlockToStateStore_ok C (withContext_eq_ok hs)
    obtain ⟨_, l₄, he, h⟩ := bind_eq_ok h
    rw [saveBlockToEventStore_apply] at he
    cases he
    simp only [failAt_bind_apply, modifyEventStore_bind_apply, modifyStateStore_apply] at h
    split_ifs at h <;> cases h <;>
      exact ⟨blockHash, block, result, rfl, hb, by simp [hst, SubStore.putAll, SubStore.newBatch],
        hbs, hm⟩

theorem recoverBlocks_current {fault : Option (UInt32 × FailPoint)} :
    ∀ (n : Nat) {i : UInt32} {l l' : Ledger} {u : Unit},
      recoverBlocks C stateHashCheckHeight fault i (n + 1) l = .ok u l' →
      ∃ blockHash block,
        BlockStore.getBlockHash l.blockStore.log (i + UInt32.ofNat n) = some blockHash ∧
        BlockStore.getBlock C l.blockStore.log blockHash = some block ∧
        StateStore.getCurrentBlock l'.stateStore.log = some (blockHash, block.header.height)
  | n, i, l, l', u, h => by
    rw [recoverBlocks] at h
    obtain ⟨_, l₁, h₁, h⟩ := bind_eq_ok h
    obtain ⟨x, blk, result, hx, hb, hst, hbs, -⟩ := recoverBlock_ok C stateHashCheckHeight h₁
    cases n with
    | zero =>
      rw [recoverBlocks] at h
      cases h
      have hi : i + UInt32.ofNat 0 = i := by
        rw [u32_eq_iff]; have := u32_toNat_lt i
        simp only [u32_toNat_add, u32_toNat_UInt32_ofNat]; omega
      refine ⟨x, blk, by rw [hi]; exact hx, hb, ?_⟩
      rw [hst, getCurrentBlock_append_stateBatch, (BlockStore.getBlock_saved hb).2]
    | succ n =>
      obtain ⟨x', blk', hx', hb', hcur⟩ := recoverBlocks_current n h
      rw [hbs] at hx' hb'
      have hi : i + 1 + UInt32.ofNat n = i + UInt32.ofNat (n + 1) := by
        rw [u32_eq_iff]; simp only [u32_toNat_add, u32_toNat_one, u32_toNat_UInt32_ofNat]; omega
      exact ⟨x', blk', hi ▸ hx', hb', hcur⟩

/-- A `recoverStore` that succeeds from a State Store height below the current block's
replays up to the height just below the current block's, and no further. -/
theorem recoverStore_current {fault : Option (UInt32 × FailPoint)} {l l' : Ledger} {u : Unit}
    {stateHash : Uint256} {stateHeight : UInt32}
    (hs : StateStore.getCurrentBlock l.stateStore.log = some (stateHash, stateHeight))
    (hlt : stateHeight < l.mem.currBlockHeight)
    (h : recoverStore C stateHashCheckHeight fault l = .ok u l') :
    ∃ blockHash block,
      BlockStore.getBlockHash l.blockStore.log (l.mem.currBlockHeight - 1) = some blockHash ∧
      BlockStore.getBlock C l.blockStore.log blockHash = some block ∧
      StateStore.getCurrentBlock l'.stateStore.log = some (blockHash, block.header.height) := by
  simp only [recoverStore, bind_apply, get_apply, hs] at h
  rw [u32_lt_iff] at hlt
  obtain ⟨n, hn⟩ : ∃ n, l.mem.currBlockHeight.toNat - stateHeight.toNat = n + 1 :=
    ⟨_, (Nat.succ_pred_eq_of_pos (by omega)).symm⟩
  rw [hn] at h
  have hi : stateHeight + UInt32.ofNat n = l.mem.currBlockHeight - 1 := by
    rw [u32_eq_iff]
    simp only [u32_toNat_add, u32_toNat_sub, u32_toNat_one, u32_toNat_UInt32_ofNat]; omega
  rw [← hi]
  exact recoverBlocks_current C stateHashCheckHeight n h

theorem loadCurrentBlock_ok {l l' : Ledger} {u : Unit} (h : loadCurrentBlock l = .ok u l') :
    (∃ x, BlockStore.getCurrentBlock l.blockStore.log = some (x, l'.mem.currBlockHeight)) ∧
      l'.blockStore = l.blockStore ∧ l'.stateStore = l.stateStore := by
  simp only [loadCurrentBlock, bind_apply, get_apply] at h
  cases hc : BlockStore.getCurrentBlock l.blockStore.log with
  | none => simp [hc] at h
  | some p =>
    obtain ⟨x, b⟩ := p
    simp only [hc, modifyMem_apply] at h
    cases h
    exact ⟨⟨x, rfl⟩, rfl, rfl⟩

theorem loadBlockHashes_ok : ∀ (n : Nat) {i : UInt32} {l l' : Ledger} {u : Unit},
    loadBlockHashes i n l = .ok u l' →
      l'.blockStore = l.blockStore ∧ l'.stateStore = l.stateStore ∧
        l'.mem.currBlockHeight = l.mem.currBlockHeight
  | 0, _, _, _, _, h => by cases h; exact ⟨rfl, rfl, rfl⟩
  | n + 1, i, l, l', u, h => by
    simp only [loadBlockHashes, bind_apply, get_apply] at h
    cases hx : BlockStore.getBlockHash l.blockStore.log i with
    | none => simp [hx] at h
    | some x =>
      by_cases hz : x = UINT256_EMPTY
      · simp [hx, hz] at h
      · simp only [hx, hz, if_false, pure_apply, bind_apply, modifyMem_apply] at h
        have := loadBlockHashes_ok n h
        exact this

theorem loadHeaderIndexList_ok {l l' : Ledger} {u : Unit} (h : loadHeaderIndexList l = .ok u l') :
    l'.blockStore = l.blockStore ∧ l'.stateStore = l.stateStore ∧
      l'.mem.currBlockHeight = l.mem.currBlockHeight := by
  simp only [loadHeaderIndexList, bind_apply, get_apply, modifyMem_apply] at h
  have := loadBlockHashes_ok _ h
  exact this

/-- **Recovery stops one height short.** A restart of a ledger whose State Store is behind
its Block Store, when it succeeds, leaves the State Store at the block the Block Store
indexes for the height just below its current block's: the current block itself is never
re-executed. -/
theorem restart_recovers_below_current {f : Option (UInt32 × FailPoint)} {genesis : Block}
    {defaultBookkeeper : List PublicKey} {n : Node} {blockHash stateHash : Uint256}
    {blockHeight stateHeight : UInt32}
    (hv : BlockStore.getVersion n.ledger.blockStore.log = some SYSTEM_VERSION)
    (hb : BlockStore.getCurrentBlock n.ledger.blockStore.log = some (blockHash, blockHeight))
    (hs : StateStore.getCurrentBlock n.ledger.stateStore.log = some (stateHash, stateHeight))
    (hlt : stateHeight < blockHeight)
    (hok : ((Call.restart f).run C stateHashCheckHeight genesis defaultBookkeeper n).serving) :
    ∃ x block, BlockStore.getBlockHash n.ledger.blockStore.log (blockHeight - 1) = some x ∧
      BlockStore.getBlock C n.ledger.blockStore.log x = some block ∧
      StateStore.getCurrentBlock
        ((Call.restart f).run C stateHashCheckHeight genesis defaultBookkeeper n).ledger.stateStore.log =
          some (x, block.header.height) := by
  simp only [Call.run] at hok ⊢
  generalize hr : InitLedgerStoreWithGenesisBlock C stateHashCheckHeight f genesis defaultBookkeeper
    n.ledger.reopen = r at hok ⊢
  cases r with
  | error => cases hok
  | ok u l' =>
  simp only [ledgerAfter_ok]
  have hv' : BlockStore.getVersion n.ledger.reopen.blockStore.log = some SYSTEM_VERSION := hv
  simp only [InitLedgerStoreWithGenesisBlock, bind_apply, get_apply, hv', ne_eq, not_true_eq_false,
    if_false] at hr
  split at hr
  · simp at hr
  rw [pure_bind] at hr
  obtain ⟨_, l₂, h₂, hr⟩ := bind_eq_ok (withContext_eq_ok hr)
  obtain ⟨⟨x, hx⟩, hb₂, hs₂⟩ := loadCurrentBlock_ok (withContext_eq_ok h₂)
  obtain ⟨_, l₃, h₃, hr⟩ := bind_eq_ok hr
  obtain ⟨hb₃, hs₃, hh₃⟩ := loadHeaderIndexList_ok (withContext_eq_ok h₃)
  have hcur : l₃.mem.currBlockHeight = blockHeight := by
    rw [hh₃]; rw [show n.ledger.reopen.blockStore.log = n.ledger.blockStore.log from rfl, hb] at hx
    cases hx; rfl
  have h := recoverStore_current C stateHashCheckHeight (by rw [hs₃, hs₂]; exact hs)
    (hcur ▸ hlt) (withContext_eq_ok hr)
  rw [hcur, hb₃, hb₂] at h
  exact h

end

/-- A crash between the Event Store's commit and the State Store's. The first submit after
genesis stops at `stateStore.CommitTo`, and the node restarts. -/
def staleBlock1 : Block := sampleBlock 1 1 (sampleGenesis.hash sampleCollaborators) 2

def staleBlock2 : Block := sampleBlock 2 2 (staleBlock1.hash sampleCollaborators) 3

def staleCrash : List Call :=
  [sampleStart, .submitBlock (some .stateCommit) staleBlock1 none sampleResult]

def staleNode : Node := runCalls sampleCollaborators 0 sampleGenesis [] staleCrash Node.fresh

theorem stale_restart_recovers_below :
    ∃ x block, BlockStore.getBlockHash staleNode.ledger.blockStore.log (1 - 1) = some x ∧
      BlockStore.getBlock sampleCollaborators staleNode.ledger.blockStore.log x = some block ∧
      StateStore.getCurrentBlock
        ((Call.restart none).run sampleCollaborators 0 sampleGenesis [] staleNode).ledger.stateStore.log =
          some (x, block.header.height) :=
  @restart_recovers_below_current sampleCollaborators 0 none sampleGenesis [] staleNode
    (staleBlock1.hash sampleCollaborators) (sampleGenesis.hash sampleCollaborators) 1 0
    (by decide) (by decide) (by decide) (by decide) (by decide)

def staleRestarted : Node := (Call.restart none).run sampleCollaborators 0 sampleGenesis [] staleNode

/-- After the restart the Block Store holds block one and the State Store is still at the
genesis block. -/
theorem stale_state_after_restart :
    staleRestarted.serving = true ∧
      BlockStore.getCurrentBlock staleRestarted.ledger.blockStore.log =
        some (staleBlock1.hash sampleCollaborators, 1) ∧
      StateStore.getCurrentBlock staleRestarted.ledger.stateStore.log =
        some (sampleGenesis.hash sampleCollaborators, 0) := by
  decide

def staleResumed : Node :=
  runCalls sampleCollaborators 0 sampleGenesis []
    (staleCrash ++ [.restart none, .submitBlock none staleBlock2 none sampleResult]) Node.fresh

/-- Over the crash, the restart and the next submit, the State Store commits height zero
twice and never height one. -/
theorem state_heights_after_restart :
    staleResumed.serving = true ∧ staleResumed.ledger.mem.currBlockHeight = 2 ∧
      stateCommittedHeights staleResumed.ledger.stateStore.log = [0, 0, 2] := by
  decide

end Layer2.LedgerStore
