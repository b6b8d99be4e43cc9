import Layer2.LedgerStore.Run

/-! # The header index flush

`saveHeaderIndexList` stages the next batch of `HEADER_INDEX_BATCH_SIZE` index entries in the
Block Store's batch and moves `storedIndexCount` on at once, in memory. A submit that fails
before the Block Store's commit discards the batch and keeps the count, and the next flush
starts past heights whose entries were never written.
-/

namespace Layer2.LedgerStore

theorem getHeaderIndexList_append {log ws : List BlockWrite}
    (h : ∀ w ∈ ws, ∀ start hashes, w ≠ .saveHeaderIndexList start hashes) :
    BlockStore.getHeaderIndexList (log ++ ws) = BlockStore.getHeaderIndexList log := by
  unfold BlockStore.getHeaderIndexList
  rw [List.foldl_append]
  generalize List.foldl _ (∅ : GoMap UInt32 Uint256) log = m
  induction ws generalizing m with
  | nil => rfl
  | cons w ws ih =>
    rw [List.foldl_cons, ih (fun w' hw' => h w' (List.mem_cons_of_mem _ hw'))]
    cases w with
    | saveHeaderIndexList start hashes => exact absurd rfl (h _ (List.mem_cons_self _ _) start hashes)
    | _ => rfl

section

variable (C : Collaborators)

theorem submitAccepted_congr {fault : Option FailPoint} {block : Block}
    {layer2State : Option Layer2State} {l l' : Ledger} (hc : l'.mem.closing = l.mem.closing)
    (hh : l'.mem.currBlockHeight = l.mem.currBlockHeight) (hb : l'.blockStore.log = l.blockStore.log) :
    submitAccepted C fault block layer2State l' = submitAccepted C fault block layer2State l := by
  simp only [submitAccepted, hc, hh, hb]

theorem blockRootAccepted_congr {block : Block} {l l' : Ledger}
    (hh : l'.mem.currBlockHeight = l.mem.currBlockHeight)
    (hs : l'.stateStore.log = l.stateStore.log) :
    blockRootAccepted C l' block = blockRootAccepted C l block := by
  simp only [blockRootAccepted, GetBlockRootWithNewTxRoots, hh, hs]

theorem submitAccepted_saveBlock {block : Block} {layer2State : Option Layer2State} {l : Ledger} :
    submitAccepted C (some .saveBlock) block layer2State l = submitAccepted C none block layer2State l := by
  simp [submitAccepted, verifyHeader]

/-- **A discarded flush is never redone.** When a flush is due, a submit that fails at the
Block Store's `SaveBlock` moves `storedIndexCount` on by a batch and discards the batch, and
submitting the block again commits it without writing that batch: the count runs a whole
batch ahead of the durable header index. -/
theorem flush_lost_on_failed_submit {block : Block} {layer2State : Option Layer2State}
    {result : ExecuteResult} {l : Ledger}
    (hdue : l.mem.currBlockHeight - l.mem.storedIndexCount = HEADER_INDEX_BATCH_SIZE)
    (ha : (submitAccepted C none block layer2State l && blockRootAccepted C l block) = true) :
    let r := SubmitBlock C (some .saveBlock) block layer2State result l
    let l₂ := ledgerAfter (SubmitBlock C none block layer2State result (ledgerAfter r))
    succeeded r = false ∧ l₂.mem.currBlockHeight = block.header.height ∧
      l₂.mem.storedIndexCount = l.mem.storedIndexCount + HEADER_INDEX_BATCH_SIZE ∧
      BlockStore.getHeaderIndexList l₂.blockStore.log =
        BlockStore.getHeaderIndexList l.blockStore.log := by
  intro r l₂
  simp only [Bool.and_eq_true] at ha
  have ha₁ : submitAccepted C (some .saveBlock) block layer2State l = true := by
    rw [submitAccepted_saveBlock]; exact ha.1
  obtain ⟨hm₁, -, hb₁, -, hs₁, hok₁⟩ :=
    @submitBlock_effect C (some .saveBlock) block layer2State result l ha.2
  have hr : r = withContext "saveBlock error " (submitBlock C (some .saveBlock) block layer2State result) l :=
    SubmitBlock_of_accepted C ha₁
  have hfail : succeeded r = false := by
    rw [hr, succeeded_withContext, Bool.eq_false_iff]
    exact fun h => absurd (hok₁.mp h) (by decide)
  have hm : (ledgerAfter r).mem = stageMem C l.mem block := by rw [hr, ledgerAfter_withContext, hm₁]; rfl
  have hb : (ledgerAfter r).blockStore.log = l.blockStore.log := by
    rw [hr, ledgerAfter_withContext, hb₁]; rfl
  have hs : (ledgerAfter r).stateStore.log = l.stateStore.log := by
    rw [hr, ledgerAfter_withContext, hs₁]; rfl
  have hh : (ledgerAfter r).mem.currBlockHeight = l.mem.currBlockHeight := by rw [hm]; simp
  have ha₂ : submitAccepted C none block layer2State (ledgerAfter r) = true ∧
      blockRootAccepted C (ledgerAfter r) block = true := by
    rw [submitAccepted_congr C (by rw [hm]; simp) hh hb, blockRootAccepted_congr C hh hs]
    exact ha
  obtain ⟨hm₂, -, hb₂, -⟩ := @submitBlock_effect C none block layer2State result (ledgerAfter r) ha₂.2
  have hl₂ : l₂ = ledgerAfter (submitBlock C none block layer2State result (ledgerAfter r)) := by
    simp only [l₂, SubmitBlock_ledger, ha₂, Bool.and_self, if_true]
  have hnot : ¬ l.mem.currBlockHeight - l.mem.storedIndexCount < HEADER_INDEX_BATCH_SIZE := by
    rw [hdue]; exact UInt32.lt_irrefl _
  have hstored : (ledgerAfter r).mem.storedIndexCount =
      l.mem.storedIndexCount + HEADER_INDEX_BATCH_SIZE := by
    rw [hm, stageMem_storedIndexCount, if_neg hnot]
  have hnext : (ledgerAfter r).mem.currBlockHeight - (ledgerAfter r).mem.storedIndexCount <
      HEADER_INDEX_BATCH_SIZE := by
    rw [hh, hstored, u32_lt_iff]
    rw [u32_eq_iff] at hdue
    have := u32_toNat_lt l.mem.storedIndexCount
    simp only [HEADER_INDEX_BATCH_SIZE_toNat, u32_toNat_sub, u32_toNat_add] at hdue ⊢
    omega
  rw [hl₂, hm₂, hb₂]
  refine ⟨hfail, rfl, ?_, ?_⟩
  · simp only [commitStop, memAfterCommit, committedMem, stageMem_storedIndexCount]
    rw [if_pos (by simpa [indexedMem] using hnext), ← hstored]
  · simp only [commitStop, blockLogAfterCommit, blockBatch, flushWrites]
    rw [if_pos (by simpa [indexedMem] using hnext), List.nil_append, getHeaderIndexList_append, hb]
    simp

end

/-- The block of height 2000, and a ledger holding it as current block whose header index was
never flushed: the first flush is due at the next submit. -/
def flushParent : Block := sampleBlock 2000 2000 0 0

def flushLedger : Ledger :=
  ⟨⟨0, 2000, flushParent.hash sampleCollaborators,
    (∅ : GoMap UInt32 Uint256).insert 2000 (flushParent.hash sampleCollaborators), false⟩,
    ⟨[.saveBlock flushParent], []⟩, .empty, .empty, [], []⟩

def flushBlock : Block := sampleBlock 2001 2001 (flushParent.hash sampleCollaborators) 1

theorem flush_lost_at_first_batch :
    let r := SubmitBlock sampleCollaborators (some .saveBlock) flushBlock none sampleResult flushLedger
    let l₂ := ledgerAfter
      (SubmitBlock sampleCollaborators none flushBlock none sampleResult (ledgerAfter r))
    succeeded r = false ∧ l₂.mem.currBlockHeight = flushBlock.header.height ∧
      l₂.mem.storedIndexCount = flushLedger.mem.storedIndexCount + HEADER_INDEX_BATCH_SIZE ∧
      BlockStore.getHeaderIndexList l₂.blockStore.log =
        BlockStore.getHeaderIndexList flushLedger.blockStore.log :=
  flush_lost_on_failed_submit sampleCollaborators (by decide) (by decide)

end Layer2.LedgerStore
