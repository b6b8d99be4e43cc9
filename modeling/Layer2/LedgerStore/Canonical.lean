import Layer2.LedgerStore.Run

/-! # The canonical chain

`verifyHeader` looks a new header's parent up by hash in the Block Store and never compares
it with the current block, so a block left durable but not canonical by a submit that fails at
the Event Store's commit may become a parent. What every run keeps is weaker: each canonical
header has the height it is indexed under, and its parent, whichever it is, was checked against
it, when distinct headers of the run have distinct hashes and the run does not restart.
-/

namespace Layer2.LedgerStore

section

variable (C : Collaborators)

/-- The chain the current block ends, as the specification states it: every canonical
header links to the canonical header of the height below. -/
def CanonicalChain (l : Ledger) : Prop :=
  l.mem.headerIndex.lookup l.mem.currBlockHeight = some l.mem.currBlockHash ∧
  ∀ h : UInt32, 1 ≤ h.toNat → h ≤ l.mem.currBlockHeight →
    ∃ hdr p, BlockStore.getHeader C l.blockStore.log (l.mem.GetBlockHash h) = some hdr ∧
      hdr.height = h ∧ hdr.prevBlockHash = l.mem.GetBlockHash (h - 1) ∧
      BlockStore.getHeader C l.blockStore.log (l.mem.GetBlockHash (h - 1)) = some p ∧
      p.timestamp < hdr.timestamp ∧ C.addressFromBookkeepers hdr.bookkeepers = .ok p.nextBookkeeper

/-- Blocks of `blocks` with distinct headers have distinct hashes; a header may come back with
other transactions. -/
def HashesDistinct (blocks : List Block) : Prop :=
  ∀ b₁ ∈ blocks, ∀ b₂ ∈ blocks, b₁.hash C = b₂.hash C → b₁.header = b₂.header

instance (blocks : List Block) : Decidable (HashesDistinct C blocks) :=
  inferInstanceAs
    (Decidable (∀ b₁ ∈ blocks, ∀ b₂ ∈ blocks, b₁.hash C = b₂.hash C → b₁.header = b₂.header))

/-- The chain the header index describes: the current block is indexed, each indexed height
up to it holds a stored header of that height whose parent passed `verifyHeader`, and every
block the Block Store holds is one of `blocks`. -/
structure ChainInvariant (blocks : List Block) (m : LedgerStoreImp) (log : List BlockWrite) :
    Prop where
  tip : m.headerIndex.lookup m.currBlockHeight = some m.currBlockHash
  linked : ∀ h : UInt32, 1 ≤ h.toNat → h ≤ m.currBlockHeight →
    ∃ hdr, BlockStore.getHeader C log (m.GetBlockHash h) = some hdr ∧ hdr.height = h ∧
      ParentLinked C log hdr
  saved : ∀ b, BlockWrite.saveBlock b ∈ log → b ∈ blocks

theorem saveBlock_mem_blockBatch {m : LedgerStoreImp} {block b : Block}
    (h : BlockWrite.saveBlock b ∈ blockBatch C m block) : b = block := by
  unfold blockBatch flushWrites at h
  split at h <;> simp at h <;> exact h

theorem getHeader_append_blockBatch (log : List BlockWrite) (m : LedgerStoreImp) (block : Block)
    (x : Uint256) :
    BlockStore.getHeader C (log ++ blockBatch C m block) x =
      if block.hash C = x then some block.header else BlockStore.getHeader C log x := by
  unfold BlockStore.getHeader BlockStore.getBlock blockBatch flushWrites
  rw [lastSome_append]
  split <;> split <;> simp_all [lastSome, lastSome_append]

variable {C} {blocks : List Block} {log : List BlockWrite} {m : LedgerStoreImp} {block : Block}

theorem getHeader_append_blockBatch_of_ne (hd : HashesDistinct C blocks)
    (hs : ∀ b, BlockWrite.saveBlock b ∈ log → b ∈ blocks) (hb : block ∈ blocks) {x : Uint256}
    {hdr : Header} (hx : BlockStore.getHeader C log x = some hdr)
    (hne : hdr.height ≠ block.header.height) :
    BlockStore.getHeader C (log ++ blockBatch C m block) x = some hdr := by
  rw [getHeader_append_blockBatch, if_neg]
  · exact hx
  rintro rfl
  obtain ⟨b, hgb, rfl⟩ := Option.map_eq_some'.mp hx
  obtain ⟨hmem, hbx⟩ := BlockStore.getBlock_saved hgb
  exact hne (by rw [hd b (hs b hmem) block hb hbx])

theorem ParentLinked.append_blockBatch (hd : HashesDistinct C blocks)
    (hs : ∀ b, BlockWrite.saveBlock b ∈ log → b ∈ blocks) (hb : block ∈ blocks) {hdr : Header}
    (hp : ParentLinked C log hdr) (hne : hdr.height ≠ block.header.height + 1) :
    ParentLinked C (log ++ blockBatch C m block) hdr := by
  obtain ⟨p, hx, h1, h2, h3⟩ := hp
  exact ⟨p, getHeader_append_blockBatch_of_ne hd hs hb hx (fun h => hne (by rw [← h1, h])),
    h1, h2, h3⟩

theorem saved_append_blockBatch (hs : ∀ b, BlockWrite.saveBlock b ∈ log → b ∈ blocks)
    (hb : block ∈ blocks) : ∀ b, BlockWrite.saveBlock b ∈ log ++ blockBatch C m block → b ∈ blocks := by
  intro b h
  rcases List.mem_append.mp h with h | h
  · exact hs b h
  · rw [saveBlock_mem_blockBatch C h]; exact hb

@[simp] theorem stageMem_GetBlockHash (k : UInt32) :
    (stageMem C m block).GetBlockHash k =
      if block.header.height = k then block.hash C else m.GetBlockHash k := by
  simp only [LedgerStoreImp.GetBlockHash, stageMem_headerIndex, indexedMem]
  split
  · subst k; simp
  · rw [AList.lookup_insert_ne (Ne.symm ‹_›)]

theorem ChainInvariant.linked_append (hi : ChainInvariant C blocks m log)
    (hd : HashesDistinct C blocks) (hb : block ∈ blocks)
    (hh : block.header.height.toNat = m.currBlockHeight.toNat + 1) {k : UInt32}
    (hk1 : 1 ≤ k.toNat) (hk2 : k ≤ m.currBlockHeight) :
    ∃ hdr, BlockStore.getHeader C (log ++ blockBatch C m block) (m.GetBlockHash k) = some hdr ∧
      hdr.height = k ∧ ParentLinked C (log ++ blockBatch C m block) hdr := by
  obtain ⟨hdr, hx, rfl, hp⟩ := hi.linked k hk1 hk2
  rw [u32_le_iff] at hk2
  have := u32_toNat_lt block.header.height
  refine ⟨hdr, getHeader_append_blockBatch_of_ne hd hi.saved hb hx ?_, rfl,
    hp.append_blockBatch hd hi.saved hb ?_⟩
  · rw [Ne, u32_eq_iff]; omega
  · rw [Ne, u32_eq_iff, u32_toNat_add, u32_toNat_one]; omega

theorem ChainInvariant.stage (hi : ChainInvariant C blocks m log) (hd : HashesDistinct C blocks)
    (hb : block ∈ blocks) (hh : block.header.height.toNat = m.currBlockHeight.toNat + 1)
    {log' : List BlockWrite} (hlog : log' = log ∨ log' = log ++ blockBatch C m block) :
    ChainInvariant C blocks (stageMem C m block) log' := by
  have hne : ∀ k, k ≤ m.currBlockHeight → block.header.height ≠ k := by
    intro k hk; rw [u32_le_iff] at hk; rw [Ne, u32_eq_iff]; omega
  refine ⟨?_, fun k hk1 hk2 => ?_, ?_⟩
  · rw [stageMem_currBlockHeight, stageMem_currBlockHash, stageMem_headerIndex]
    dsimp only [indexedMem]
    rw [AList.lookup_insert_ne (hne _ (by rw [u32_le_iff])).symm]
    exact hi.tip
  · simp only [stageMem_currBlockHeight] at hk2
    rw [stageMem_GetBlockHash, if_neg (hne k hk2)]
    rcases hlog with rfl | rfl
    · exact hi.linked k hk1 hk2
    · exact hi.linked_append hd hb hh hk1 hk2
  · rcases hlog with rfl | rfl
    · exact hi.saved
    · exact saved_append_blockBatch hi.saved hb

theorem ChainInvariant.commit (hi : ChainInvariant C blocks m log) (hd : HashesDistinct C blocks)
    (hb : block ∈ blocks) (hh : block.header.height.toNat = m.currBlockHeight.toNat + 1)
    (hp : ParentLinked C log block.header) :
    ChainInvariant C blocks (committedMem C m block) (log ++ blockBatch C m block) := by
  refine ⟨?_, fun k hk1 hk2 => ?_, saved_append_blockBatch hi.saved hb⟩
  · simp [committedMem, indexedMem]
  · have hGet : (committedMem C m block).GetBlockHash k = (stageMem C m block).GetBlockHash k := rfl
    rw [hGet, stageMem_GetBlockHash]
    split
    · rename_i hk
      subst hk
      refine ⟨block.header, by rw [getHeader_append_blockBatch, if_pos rfl], rfl,
        hp.append_blockBatch hd hi.saved hb ?_⟩
      rw [Ne, u32_eq_iff, u32_toNat_add, u32_toNat_one]; omega
    · rename_i hk
      have hk2' : k ≤ m.currBlockHeight := by
        simp only [committedMem, u32_le_iff] at hk2 ⊢
        rw [u32_eq_iff] at hk; omega
      exact hi.linked_append hd hb hh hk1 hk2'

theorem ChainInvariant.of_mem (hi : ChainInvariant C blocks m log) {m' : LedgerStoreImp}
    (hh : m'.currBlockHeight = m.currBlockHeight) (hx : m'.currBlockHash = m.currBlockHash)
    (hidx : m'.headerIndex = m.headerIndex) : ChainInvariant C blocks m' log := by
  cases m; cases m'
  simp only at hh hx hidx
  subst hh hx hidx
  exact ⟨hi.tip, hi.linked, hi.saved⟩

/-- **Step.** A submit of a block of the run keeps the invariant, whatever fault it meets. -/
theorem ChainInvariant.of_SubmitBlock {fault : Option FailPoint} {layer2State : Option Layer2State}
    {result : ExecuteResult} {l : Ledger} (hi : ChainInvariant C blocks l.mem l.blockStore.log)
    (hd : HashesDistinct C blocks) (hb : block ∈ blocks) :
    ChainInvariant C blocks (ledgerAfter (SubmitBlock C fault block layer2State result l)).mem
      (ledgerAfter (SubmitBlock C fault block layer2State result l)).blockStore.log := by
  rw [SubmitBlock_ledger]
  split
  · rename_i ha
    simp only [Bool.and_eq_true] at ha
    obtain ⟨hh, hv⟩ := submitAccepted_checks C ha.1
    obtain ⟨hm, -, hlog, -⟩ := @submitBlock_effect C fault block layer2State result l ha.2
    rw [hm, hlog]
    cases commitStop fault
    · exact hi.stage hd hb hh (.inl rfl)
    · exact hi.stage hd hb hh (.inr rfl)
    · exact hi.stage hd hb hh (.inr rfl)
    · have h0 : block.header.height ≠ 0 := by rw [Ne, u32_eq_iff, hh]; simp
      exact hi.commit hd hb hh ((verifyHeader_ok C hv).resolve_left h0)
  · exact hi

variable (C)

def Node.ServesChain (blocks : List Block) (n : Node) : Prop :=
  n.serving = true → ChainInvariant C blocks n.ledger.mem n.ledger.blockStore.log

variable (stateHashCheckHeight : UInt32) (genesis : Block) (defaultBookkeeper : List PublicKey)

theorem Node.ServesChain.call (hd : HashesDistinct C blocks) {c : Call}
    (hc : c.isRestart = false) (hb : ∀ b ∈ c.block?, b ∈ blocks) {n : Node}
    (hi : n.ServesChain C blocks) :
    (c.run C stateHashCheckHeight genesis defaultBookkeeper n).ServesChain C blocks := by
  by_cases hs : n.serving = true
  swap
  · cases c <;> simp only [Call.run, if_neg hs] <;> first | exact hi | cases hc
  cases c with
  | submitBlock fault b layer2State result =>
    simp only [Call.run, if_pos hs]
    exact fun _ => (hi hs).of_SubmitBlock hd (hb b rfl)
  | executeBlock _ => exact hi
  | close =>
    simp only [Call.run, if_pos hs, Close, modifyMem_apply, ledgerAfter_ok]
    exact fun _ => (hi hs).of_mem rfl rfl rfl
  | restart _ => cases hc

/-- **Run.** Calls without restarts keep the invariant. -/
theorem Node.ServesChain.run (hd : HashesDistinct C blocks) :
    ∀ (calls : List Call) {n : Node}, (∀ c ∈ calls, c.isRestart = false) →
      (∀ c ∈ calls, ∀ b ∈ c.block?, b ∈ blocks) → n.ServesChain C blocks →
      (runCalls C stateHashCheckHeight genesis defaultBookkeeper calls n).ServesChain C blocks
  | [], _, _, _, hi => hi
  | c :: calls, _, hr, hb, hi => by
    rw [runCalls_cons]
    exact Node.ServesChain.run hd calls (fun c' h => hr c' (List.mem_cons_of_mem _ h))
      (fun c' h => hb c' (List.mem_cons_of_mem _ h))
      (hi.call C stateHashCheckHeight genesis defaultBookkeeper hd (hr c (List.mem_cons_self _ _))
        (hb c (List.mem_cons_self _ _)))

theorem ChainInvariant.of_genesis (hg : genesis.header.height = 0) (hb : genesis ∈ blocks) :
    ChainInvariant C blocks (committedMem C Ledger.empty.mem genesis)
      (blockBatch C Ledger.empty.mem genesis ++ [.saveVersion SYSTEM_VERSION]) := by
  refine ⟨by simp [committedMem, indexedMem], fun k hk1 hk2 => ?_, fun b h => ?_⟩
  · simp only [committedMem, u32_le_iff, hg] at hk2
    simp at hk2; omega
  · rcases List.mem_append.mp h with h | h
    · rw [saveBlock_mem_blockBatch C h]; exact hb
    · simp at h

end

/-- **The canonical chain, as the code keeps it.** From a genesis block of height zero, over
any calls but restarts, whatever faults the submits meet: the current block is indexed, and
the header indexed under each height up to it has that height and a parent in the Block
Store that passed `verifyHeader` against it, when distinct headers of the run have distinct
hashes. -/
theorem canonical_chain_parent_linked (C : Collaborators) {stateHashCheckHeight : UInt32}
    {genesis : Block} {defaultBookkeeper : List PublicKey} {f : Option (UInt32 × FailPoint)}
    {calls : List Call} (hg : genesis.header.height = 0)
    (hd : HashesDistinct C (genesis :: calls.filterMap Call.block?))
    (hr : ∀ c ∈ calls, c.isRestart = false)
    (hs : (runCalls C stateHashCheckHeight genesis defaultBookkeeper (.restart f :: calls)
      Node.fresh).serving = true) :
    let l := (runCalls C stateHashCheckHeight genesis defaultBookkeeper (.restart f :: calls)
      Node.fresh).ledger
    ChainInvariant C (genesis :: calls.filterMap Call.block?) l.mem l.blockStore.log := by
  rw [runCalls_cons] at hs ⊢
  refine Node.ServesChain.run C stateHashCheckHeight genesis defaultBookkeeper hd calls hr
    (fun c hc b hb => List.mem_cons_of_mem _ (List.mem_filterMap.mpr ⟨c, hc, hb⟩))
    (fun h => ?_) hs
  obtain ⟨hm, hl⟩ := restart_fresh C stateHashCheckHeight genesis defaultBookkeeper hg h
  rw [hm, hl]
  exact ChainInvariant.of_genesis C genesis hg (List.mem_cons_self _ _)

/-- A fork. `forkBlockA` reaches the Block Store through a submit that fails at the Event
Store's commit, `forkBlockB` becomes the canonical block of height one, and `forkBlockC`
names `forkBlockA` as its parent. -/
def forkBlockA : Block := sampleBlock 1 1 (sampleGenesis.hash sampleCollaborators) 2

def forkBlockB : Block := sampleBlock 1 2 (sampleGenesis.hash sampleCollaborators) 2

def forkBlockC : Block := sampleBlock 2 3 (forkBlockA.hash sampleCollaborators) 3

def forkCalls : List Call :=
  [.submitBlock (some .eventCommit) forkBlockA none sampleResult,
   .submitBlock none forkBlockB none sampleResult,
   .submitBlock none forkBlockC none sampleResult]

def forkNode : Node :=
  runCalls sampleCollaborators 0 sampleGenesis [] (sampleStart :: forkCalls) Node.fresh

theorem fork_keeps_parent_links :
    ChainInvariant sampleCollaborators (sampleGenesis :: forkCalls.filterMap Call.block?)
      forkNode.ledger.mem forkNode.ledger.blockStore.log :=
  canonical_chain_parent_linked sampleCollaborators (by decide) (by decide) (by decide) (by decide)

/-- The fork's node serves, and its block of height two links to `forkBlockA`, not to the
canonical block of height one. -/
theorem fork_breaks_canonical_chain :
    forkNode.serving = true ∧ ¬ CanonicalChain sampleCollaborators forkNode.ledger := by
  refine ⟨by decide, fun ⟨_, h⟩ => ?_⟩
  obtain ⟨hdr, _, hx, _, hprev, _⟩ := h 2 (by decide) (by decide)
  have hC : BlockStore.getHeader sampleCollaborators forkNode.ledger.blockStore.log
      (forkNode.ledger.mem.GetBlockHash 2) = some forkBlockC.header := by decide
  rw [hC, Option.some_inj] at hx
  subst hx
  exact absurd hprev (by decide)

end Layer2.LedgerStore
