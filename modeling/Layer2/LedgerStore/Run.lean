import Layer2.LedgerStore.Commit

/-! # Runs of a node

A node calls its ledger store over and over: `SubmitBlock` (meeting any fault), the
read-only `ExecuteBlock`, `Close`, and restarts, each of which opens the stores afresh and
runs `InitLedgerStoreWithGenesisBlock`. A crash is a call stopped at a fault point followed
by a restart: the durable logs then hold exactly the commits made before the stop.
-/

namespace Layer2.LedgerStore

inductive Call
  | submitBlock (fault : Option FailPoint) (block : Block) (layer2State : Option Layer2State)
      (result : ExecuteResult)
  | executeBlock (block : Block)
  | close
  | restart (fault : Option (UInt32 × FailPoint))

namespace Call

def block? : Call → Option Block
  | submitBlock _ block _ _ => some block
  | _ => none

def isRestart : Call → Bool
  | restart _ => true
  | _ => false

end Call

/-- A node: its ledger, and whether the last initialisation returned without error, so that
the ledger serves calls. -/
structure Node where
  ledger : Ledger
  serving : Bool

section

variable (C : Collaborators) (stateHashCheckHeight : UInt32) (genesis : Block)
  (defaultBookkeeper : List PublicKey)

/-- One call. A node that is not serving takes no call but a restart. -/
def Call.run : Call → Node → Node
  | .submitBlock fault block layer2State result, n =>
    if n.serving then
      { n with ledger := ledgerAfter (SubmitBlock C fault block layer2State result n.ledger) }
    else n
  | .executeBlock _, n => n
  | .close, n => if n.serving then { n with ledger := ledgerAfter (Close n.ledger) } else n
  | .restart fault, n =>
    let r := InitLedgerStoreWithGenesisBlock C stateHashCheckHeight fault genesis defaultBookkeeper
      n.ledger.reopen
    ⟨ledgerAfter r, succeeded r⟩

def runCalls (calls : List Call) (n : Node) : Node :=
  calls.foldl (fun n c => c.run C stateHashCheckHeight genesis defaultBookkeeper n) n

@[simp] theorem runCalls_nil (n : Node) :
    runCalls C stateHashCheckHeight genesis defaultBookkeeper [] n = n := rfl

@[simp] theorem runCalls_cons (c : Call) (calls : List Call) (n : Node) :
    runCalls C stateHashCheckHeight genesis defaultBookkeeper (c :: calls) n =
      runCalls C stateHashCheckHeight genesis defaultBookkeeper calls
        (c.run C stateHashCheckHeight genesis defaultBookkeeper n) := rfl

def Node.fresh : Node := ⟨Ledger.empty, false⟩

/-- A first start that succeeds has committed the genesis block, and the version marker after
it, on empty stores. -/
theorem restart_fresh {f : Option (UInt32 × FailPoint)} (hg : genesis.header.height = 0)
    (h : ((Call.restart f).run C stateHashCheckHeight genesis defaultBookkeeper Node.fresh).serving) :
    let l := ((Call.restart f).run C stateHashCheckHeight genesis defaultBookkeeper Node.fresh).ledger
    l.mem = committedMem C Ledger.empty.mem genesis ∧
      l.blockStore.log = blockBatch C Ledger.empty.mem genesis ++ [.saveVersion SYSTEM_VERSION] := by
  simp only [Call.run] at h ⊢
  simp [InitLedgerStoreWithGenesisBlock, Node.fresh, Ledger.empty, Ledger.reopen, SubStore.clearAll,
    SubStore.putDirect, BlockStore.getVersion, lastSome, SubStore.empty] at h ⊢
  cases hx : executeBlock C stateHashCheckHeight _ genesis with
  | error e => simp [hx, liftExcept] at h
  | ok result =>
    let l1 : Ledger := ⟨⟨0, 0, 0, ∅, false⟩, ⟨[], []⟩, ⟨[.saveBookkeeperState
      (C.sortPublicKeys defaultBookkeeper) (C.sortPublicKeys defaultBookkeeper)], []⟩, ⟨[], []⟩, [], []⟩
    obtain ⟨hm, -, hb, -, -, hs⟩ := @submitBlock_effect C (faultAt f 0) genesis none result l1
      (blockRootAccepted_genesis C hg rfl)
    revert hm hb hs h
    simp only [hx, liftExcept, pure_apply]
    generalize submitBlock C (faultAt f 0) genesis none result l1 = r
    cases r <;> simp
    intro hm hb hd
    rw [hd] at hm hb
    refine ⟨hm, ?_⟩
    simp only [blockLogAfterCommit] at hb
    rw [hb, List.nil_append]
    simp only [BitVec.ofNat_eq_ofNat]

end

/-- The genesis block of a sample chain, evaluated under `sampleCollaborators`. -/
def sampleGenesis : Block := ⟨⟨0, 0, 0, 0, 0, [], 0, []⟩, []⟩

/-- A block at `height` with `timestamp`, on the block whose hash is `prev`, declaring
`blockRoot`; no transactions, no signers. -/
def sampleBlock (height timestamp : UInt32) (prev blockRoot : Uint256) : Block :=
  ⟨⟨height, prev, timestamp, 0, blockRoot, [], 0, []⟩, []⟩

def sampleResult : ExecuteResult := ⟨0, ∅, 0, [], 0, []⟩

def sampleStart : Call := .restart none

def sampleLedger : Ledger :=
  (runCalls sampleCollaborators 0 sampleGenesis [] [sampleStart] Node.fresh).ledger

end Layer2.LedgerStore
