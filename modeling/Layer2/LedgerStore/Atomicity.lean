import Layer2.LedgerStore.Run

/-! # What a failed SubmitBlock leaves in memory

A failed `SubmitBlock` never moves the current-block pointer, and its header index holds the
block's entry unless a check or the block root refused the block: `saveBlockToBlockStore` writes
it with `setHeaderIndex` before any `CommitTo`, and nothing undoes it. A reader beside the call
takes the read lock once per accessor, so it meets the fields as they were before the call or as
one of the call's writes under the write lock left them. Each accessor reads the pointer or the
header index, and so returns its value before the call or after it.
-/

namespace Layer2.LedgerStore

section

variable (C : Collaborators)

theorem SubmitBlock_mem (fault : Option FailPoint) (block : Block)
    (layer2State : Option Layer2State) (result : ExecuteResult) (l : Ledger) :
    (ledgerAfter (SubmitBlock C fault block layer2State result l)).mem =
      if submitAccepted C fault block layer2State l && blockRootAccepted C l block then
        memAfterCommit C l.mem block (commitStop fault) else l.mem := by
  rw [SubmitBlock_ledger]
  split
  · rename_i ha
    exact (submitBlock_effect C (Bool.and_eq_true _ _ ▸ ha).2).1
  · rfl

theorem SubmitBlock_memWrites (fault : Option FailPoint) (block : Block)
    (layer2State : Option Layer2State) (result : ExecuteResult) (l : Ledger) :
    (ledgerAfter (SubmitBlock C fault block layer2State result l)).memWrites =
      l.memWrites ++ if submitAccepted C fault block layer2State l && blockRootAccepted C l block
        then memLogAfterCommit C l.mem block (commitStop fault) else [] := by
  rw [SubmitBlock_ledger]
  split
  · rename_i ha
    exact (submitBlock_effect C (Bool.and_eq_true _ _ ▸ ha).2).2.1
  · simp

/-- Every state a commit's writes leave holds the pointer of the state before the commit or of
the state after it, and the header index of the state after it. -/
theorem memLogAfterCommit_fields (m : LedgerStoreImp) (block : Block) (stop : CommitStop) :
    ∀ s ∈ memLogAfterCommit C m block stop,
      ((s.currBlockHeight = m.currBlockHeight ∧ s.currBlockHash = m.currBlockHash) ∨
        (s.currBlockHeight = (memAfterCommit C m block stop).currBlockHeight ∧
          s.currBlockHash = (memAfterCommit C m block stop).currBlockHash)) ∧
      s.headerIndex = (memAfterCommit C m block stop).headerIndex := by
  have hidx : (memAfterCommit C m block stop).headerIndex = (indexedMem C m block).headerIndex := by
    cases stop <;> simp [memAfterCommit, committedMem]
  have hstaged : ∀ s ∈ indexedMem C m block :: flushLog (indexedMem C m block),
      (s.currBlockHeight = m.currBlockHeight ∧ s.currBlockHash = m.currBlockHash) ∧
        s.headerIndex = (indexedMem C m block).headerIndex := by
    unfold flushLog flushMem
    split <;> simp [indexedMem]
  intro s hs
  obtain hs | ⟨rfl, rfl⟩ : s ∈ indexedMem C m block :: flushLog (indexedMem C m block) ∨
      stop = .done ∧ s = committedMem C m block := by
    cases stop <;> simpa [memLogAfterCommit, or_assoc] using hs
  · exact ⟨.inl (hstaged s hs).1, (hstaged s hs).2.trans hidx.symm⟩
  · exact ⟨.inr ⟨rfl, rfl⟩, rfl⟩

theorem memLogAfterCommit_getLast (m : LedgerStoreImp) (block : Block) (stop : CommitStop) :
    (memLogAfterCommit C m block stop).getLast? = some (memAfterCommit C m block stop) := by
  have hstage : (indexedMem C m block :: flushLog (indexedMem C m block)).getLast? =
      some (stageMem C m block) := by
    unfold flushLog stageMem flushMem
    split <;> simp
  cases stop
  case done => simp only [memLogAfterCommit, memAfterCommit, List.getLast?_concat]
  all_goals simp [memLogAfterCommit, memAfterCommit, hstage]

end

/-- The read accessors of `LedgerStoreImp`. -/
inductive Read
  | getCurrentBlock
  | getCurrentBlockHash
  | getCurrentBlockHeight
  | getCurrentHeaderHeight
  | getCurrentHeaderHash
  | getBlockHash (height : UInt32)

inductive ReadResult
  | block (height : UInt32) (blockHash : Uint256)
  | height (height : UInt32)
  | hash (blockHash : Uint256)
  deriving DecidableEq

namespace Read

def run : Read → LedgerStoreImp → ReadResult
  | getCurrentBlock, m => .block m.GetCurrentBlock.1 m.GetCurrentBlock.2
  | getCurrentBlockHash, m => .hash m.GetCurrentBlockHash
  | getCurrentBlockHeight, m => .height m.GetCurrentBlockHeight
  | getCurrentHeaderHeight, m => .height m.GetCurrentHeaderHeight
  | getCurrentHeaderHash, m => .hash m.GetCurrentHeaderHash
  | getBlockHash height, m => .hash (m.GetBlockHash height)

def readsIndex : Read → Bool
  | getCurrentHeaderHeight | getCurrentHeaderHash | getBlockHash _ => true
  | _ => false

theorem run_congr (rd : Read) {a b : LedgerStoreImp}
    (h : if rd.readsIndex then a.headerIndex = b.headerIndex
      else a.currBlockHeight = b.currBlockHeight ∧ a.currBlockHash = b.currBlockHash) :
    rd.run a = rd.run b := by
  obtain ⟨_, _, _, _, _⟩ := a
  obtain ⟨_, _, _, _, _⟩ := b
  cases rd <;> simp only [readsIndex, if_true, if_false, Bool.false_eq_true, eq_self_iff_true] at h
  all_goals (obtain ⟨rfl, rfl⟩ := h; rfl)

end Read

section

variable (C : Collaborators)

/-- **Atomicity of SubmitBlock, as the code has it.** A failed call keeps the current-block
pointer, and leaves the header index as it was when a check or the block root refused the block,
and with the block's entry otherwise. The call's writes are appended to the ledger's writes; a
reader beside the call meets the state before it or the state one of those writes left, the last
being the state after the call, and each read it makes returns what it returns on the state
before the call or on the state after it. -/
theorem SubmitBlock_error_keeps_pointer (fault : Option FailPoint) (block : Block)
    (layer2State : Option Layer2State) (result : ExecuteResult) (l : Ledger) :
    let r := SubmitBlock C fault block layer2State result l
    let post := (ledgerAfter r).mem
    let writes := (ledgerAfter r).memWrites.drop l.memWrites.length
    (succeeded r = false →
      post.GetCurrentBlock = l.mem.GetCurrentBlock ∧
      post.headerIndex =
        if submitAccepted C fault block layer2State l && blockRootAccepted C l block then
          l.mem.headerIndex.insert block.header.height (block.hash C)
        else l.mem.headerIndex) ∧
    (ledgerAfter r).memWrites = l.memWrites ++ writes ∧
    (l.mem :: writes).getLast? = some post ∧
    ∀ s ∈ l.mem :: writes, ∀ rd : Read, rd.run s = rd.run l.mem ∨ rd.run s = rd.run post := by
  intro r post writes
  have hpost : post = _ := SubmitBlock_mem C fault block layer2State result l
  have hw : writes = if submitAccepted C fault block layer2State l && blockRootAccepted C l block
      then memLogAfterCommit C l.mem block (commitStop fault) else [] := by
    simp only [writes, r, SubmitBlock_memWrites, List.drop_left]
  refine ⟨fun hf => ?_, by rw [hw, SubmitBlock_memWrites], ?_, fun s hs rd => ?_⟩
  · split at hpost
    · rename_i ha
      have hstop := SubmitBlock_failed C fault block layer2State result l hf ha
      have hstage : post = stageMem C l.mem block := by
        rw [hpost]; cases hs : commitStop fault <;> simp_all [memAfterCommit]
      simp [hstage, ha, LedgerStoreImp.GetCurrentBlock, indexedMem]
    · simp [hpost, *]
  · rw [hw, hpost]
    split
    · rw [List.getLast?_cons, memLogAfterCommit_getLast]; rfl
    · rfl
  · rcases List.mem_cons.1 hs with rfl | hs
    · exact .inl rfl
    rw [hw] at hs
    split at hs
    · obtain ⟨hp, hi⟩ := memLogAfterCommit_fields C l.mem block _ s hs
      rw [hpost, if_pos ‹_›]
      cases hrd : rd.readsIndex
      · rcases hp with hp | hp
        · exact .inl (rd.run_congr (by simpa [hrd] using hp))
        · exact .inr (rd.run_congr (by simpa [hrd] using hp))
      · exact .inr (rd.run_congr (by simpa [hrd] using hi))
    · cases hs

/-- A submit of the next block that fails at the Event Store's commit leaves the block's
header index entry behind: a later read of height 1 no longer returns the zero hash. -/
theorem SubmitBlock_error_moves_index :
    let block := sampleBlock 1 1 (sampleGenesis.hash sampleCollaborators) 2
    let r := SubmitBlock sampleCollaborators (some .eventCommit) block none sampleResult sampleLedger
    succeeded r = false ∧
      (ledgerAfter r).mem.GetBlockHash 1 ≠ sampleLedger.mem.GetBlockHash 1 := by
  decide

end

end Layer2.LedgerStore
