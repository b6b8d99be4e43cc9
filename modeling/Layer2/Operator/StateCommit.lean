import Layer2.Operator.Layer2Block
import Layer2.Utils.BuildParams

/-! # Committing a layer2 block to the base chain

`commitLayer2State2Ontology` invokes the layer2 contract's `updateState` with the block's states
root, height and version, its deposit ids, and one amount, payee and asset per withdrawal. It
pre-executes the call for its gas, falling back to 6000000, signs it, sends it until a send
succeeds, and then records the deposits and withdrawals as committed under the transaction's
hash. A message whose layer2 state is `nil` makes the call dereference it and panic.
-/

namespace Layer2.Operator

open Layer2.NeoVM
open Layer2.LedgerStore (Layer2State)

structure InvokeTransaction where
  gasPrice : UInt64
  gasLimit : UInt64
  code : List Instr

def newNeoVMInvokeTransaction (gasPrice gasLimit : UInt64) (contractAddress : Address)
    (params : List Param) : Except String InvokeTransaction := do
  let code ← BuildNeoVMInvokeCode contractAddress params
  pure ⟨gasPrice, gasLimit, code⟩

/-- The base chain's SDK and the operator's helpers and configuration: what stays the same from
one call of `commitLayer2State2Ontology` to the next. -/
structure OntologySdk where
  /-- `AddressFromHexString(config.OntologyConfig.Layer2ContractAddress)`, its error ignored. -/
  layer2ContractAddress : Address
  /-- `ontology_common.AddressFromBase58`, its error ignored. -/
  addressFromBase58 : String → Address
  /-- `hex.DecodeString`, its error ignored. -/
  decodeString : String → Bytes
  toHexString : Uint256 → String
  /-- `msg.Dump1()`. -/
  dump1 : Layer2CommitMsg → String

/-- The base chain's node and the operator's account as one call of
`commitLayer2State2Ontology` finds them. -/
structure OntologyNode where
  /-- `SetPayer` with the operator's account, then `SignToTransaction`. -/
  signToTransaction : InvokeTransaction → Except String Unit
  /-- `PreExecTransaction`: the gas the pre-execution consumed. -/
  preExecTransaction : InvokeTransaction → Except String UInt64
  /-- The hash or the error of the `i`-th `SendTransaction` of the call, counting from `0`. -/
  sendTransaction : Nat → Except String Uint256

inductive CommitWrite
  | updateDepositByID2 (id : UInt64) (state : DepositProgress)
  | updateWithdraw (txHash : String) (state : WithdrawState) (commitTxHash : String)
  | saveLayer2Commit (txHash : String) (msg : String) (height : UInt64)
  deriving DecidableEq, Repr

inductive CommitOutcome
  /-- `msg.Layer2State` is `nil`: the call dereferences it and the process panics. -/
  | panic
  /-- An error is returned before anything is sent. -/
  | error (e : String)
  /-- Every send so far has failed: the call is still sending. -/
  | sending
  /-- The transaction `tx` was sent with hash `txHash`, and `writes` were made. -/
  | committed (tx : InvokeTransaction) (txHash : Uint256) (writes : List CommitWrite)

section

variable (sdk : OntologySdk) (node : OntologyNode)

def PreExecInvokeNeoVMContract (contractAddress : Address) (params : List Param) :
    Except String UInt64 := do
  let tx ← newNeoVMInvokeTransaction 0 0 contractAddress params
  match node.signToTransaction tx with
  | .error e => throw ("sign layer2 state commit transaction failed! err: " ++ e)
  | .ok () => node.preExecTransaction tx

/-- The loop over `msg.WithDraws` that fills `withdrawAmounts`, `toAddresses` and
`assetAddress`. -/
def withdrawArgs (withDraws : List Withdraw) : List UInt64 × List Address × List Bytes :=
  withDraws.foldl (fun acc w => (acc.1 ++ [w.amount], acc.2.1 ++ [sdk.addressFromBase58 w.toAddress],
    acc.2.2 ++ [sdk.decodeString w.tokenAddress])) ([], [], [])

/-- The parameters of the `updateState` call; Go's `string(msg.Layer2State.Version)` is the
UTF-8 text of the character whose code is the version. -/
def updateStateArgs (l2 : Layer2State) (depositids withdrawAmounts : List UInt64)
    (toAddresses : List Address) (assetAddress : List Bytes) : List Param :=
  [.string "updateState", .list [.string (sdk.toHexString l2.statesRoot), .uint32 l2.height,
    .string (String.singleton (Char.ofNat l2.version.toNat)), .slice (depositids.map .uint64),
    .slice (withdrawAmounts.map .uint64), .slice (toAddresses.map .address),
    .slice (assetAddress.map .bytes)]]

/-- The `for true` loop of sends from the `i`-th, with at most `fuel` sends left: the number
and hash of the first that succeeds, `none` while they all fail. -/
def sendUntil (send : Nat → Except String Uint256) : Nat → Nat → Option (Nat × Uint256)
  | 0, _ => none
  | fuel + 1, i =>
    match send i with
    | .ok hash => some (i, hash)
    | .error _ => sendUntil send fuel (i + 1)

/-- The database writes once the transaction `txHash` is sent: each deposit set to
`DEPOSIT_NOTIFY`, each withdrawal to `WITHDRAW_COMMIT` under the hash, and the commit saved at
the layer2 state's height. -/
def commitWrites (msg : Layer2CommitMsg) (l2 : Layer2State) (txHash : Uint256) : List CommitWrite :=
  msg.deposits.map (fun id => .updateDepositByID2 id .notify) ++
    msg.withDraws.map (fun w => .updateWithdraw w.txHash .commit (sdk.toHexString txHash)) ++
    [.saveLayer2Commit (sdk.toHexString txHash) (sdk.dump1 msg) l2.height.toUInt64]

def commitLayer2State2Ontology (fuel : Nat) (msg : Layer2CommitMsg) : CommitOutcome :=
  let contractAddress := sdk.layer2ContractAddress
  let depositids := msg.deposits.foldl (fun ids id => ids ++ [id]) []
  let (withdrawAmounts, toAddresses, assetAddress) := withdrawArgs sdk msg.withDraws
  match msg.layer2State with
  | none => .panic
  | some l2 =>
    let params := updateStateArgs sdk l2 depositids withdrawAmounts toAddresses assetAddress
    let gasLimit := match PreExecInvokeNeoVMContract node contractAddress params with
      | .error _ => 6000000
      | .ok gas => gas
    match newNeoVMInvokeTransaction 500 gasLimit contractAddress params with
    | .error e => .error ("new layer2 state commit transaction failed! err: " ++ e)
    | .ok tx =>
      match node.signToTransaction tx with
      | .error e => .error ("sign layer2 state commit transaction failed! err: " ++ e)
      | .ok () =>
        match sendUntil node.sendTransaction fuel 0 with
        | none => .sending
        | some (_, txHash) => .committed tx txHash (commitWrites sdk msg l2 txHash)

theorem foldl_copy (ids acc : List UInt64) : ids.foldl (fun ids id => ids ++ [id]) acc = acc ++ ids := by
  induction ids generalizing acc with
  | nil => simp
  | cons id ids ih => rw [List.foldl_cons, ih, List.append_assoc, List.singleton_append]

theorem withdrawArgs_foldl (ws : List Withdraw) (amounts : List UInt64) (addrs : List Address)
    (assets : List Bytes) :
    ws.foldl (fun acc w => (acc.1 ++ [w.amount], acc.2.1 ++ [sdk.addressFromBase58 w.toAddress],
      acc.2.2 ++ [sdk.decodeString w.tokenAddress])) (amounts, addrs, assets) =
    (amounts ++ ws.map (·.amount), addrs ++ ws.map (sdk.addressFromBase58 ·.toAddress),
      assets ++ ws.map (sdk.decodeString ·.tokenAddress)) := by
  induction ws generalizing amounts addrs assets with
  | nil => simp
  | cons w ws ih => simp [ih]

theorem withdrawArgs_eq (ws : List Withdraw) :
    withdrawArgs sdk ws = (ws.map (·.amount), ws.map (sdk.addressFromBase58 ·.toAddress),
      ws.map (sdk.decodeString ·.tokenAddress)) := by
  simpa using withdrawArgs_foldl sdk ws [] [] []

theorem sendUntil_eq_some_iff {send : Nat → Except String Uint256} {fuel i k : Nat}
    {hash : Uint256} :
    sendUntil send fuel i = some (k, hash) ↔
      i ≤ k ∧ k < i + fuel ∧ send k = .ok hash ∧ ∀ j, i ≤ j → j < k → ∃ e, send j = .error e := by
  induction fuel generalizing i with
  | zero =>
    simp only [sendUntil, reduceCtorEq, false_iff]
    rintro ⟨h₁, h₂, -⟩
    omega
  | succ fuel ih =>
    rw [sendUntil]
    cases hs : send i with
    | ok h =>
      constructor
      · rintro ⟨⟩
        exact ⟨le_rfl, by omega, hs, fun j h₁ h₂ => absurd h₂ (by omega)⟩
      · rintro ⟨hik, -, hk, hfail⟩
        obtain rfl : i = k := by
          by_contra hne
          obtain ⟨e, he⟩ := hfail i le_rfl (by omega)
          rw [hs] at he; cases he
        rw [hs, Except.ok.injEq] at hk
        rw [hk]
    | error e =>
      rw [ih]
      constructor
      · rintro ⟨hik, hk, hok, hfail⟩
        refine ⟨by omega, by omega, hok, fun j h₁ h₂ => ?_⟩
        rcases Nat.eq_or_lt_of_le h₁ with rfl | h₁
        · exact ⟨e, hs⟩
        · exact hfail j h₁ h₂
      · rintro ⟨hik, hk, hok, hfail⟩
        have hne : i ≠ k := by rintro rfl; rw [hs] at hok; cases hok
        exact ⟨by omega, by omega, hok, fun j h₁ h₂ => hfail j (by omega) h₂⟩

theorem sendUntil_isSome {send : Nat → Except String Uint256} {fuel i k : Nat} {hash : Uint256}
    (hik : i ≤ k) (hk : k < i + fuel) (hok : send k = .ok hash) :
    ∃ k' hash', sendUntil send fuel i = some (k', hash') := by
  induction fuel generalizing i with
  | zero => omega
  | succ fuel ih =>
    rw [sendUntil]
    cases hs : send i with
    | ok h => exact ⟨i, h, rfl⟩
    | error e =>
      have hne : i ≠ k := by rintro rfl; simp [hs] at hok
      exact ih (by omega) (by omega)

/-- What the `updateState` call of `msg` reads back as on NeoVM: the method, then an array of
the states root's hex text, the height, the version's text, the deposit ids, and three arrays
holding, index by index, each withdrawal's amount, payee and asset. -/
def updateStateValues (msg : Layer2CommitMsg) (l2 : Layer2State) : List Value :=
  [.bytes "updateState".toUTF8.data.toList,
    .array [.bytes (sdk.toHexString l2.statesRoot).toUTF8.data.toList, .integer l2.height.toNat,
      .bytes (String.singleton (Char.ofNat l2.version.toNat)).toUTF8.data.toList,
      .array (msg.deposits.map fun id => .integer id.toNat),
      .array (msg.withDraws.map fun w => .integer w.amount.toNat),
      .array (msg.withDraws.map fun w => .bytes (arrayBytes 20 (sdk.addressFromBase58 w.toAddress))),
      .array (msg.withDraws.map fun w => .bytes (sdk.decodeString w.tokenAddress))]]

abbrev commitParams (msg : Layer2CommitMsg) (l2 : Layer2State) : List Param :=
  updateStateArgs sdk l2 msg.deposits (msg.withDraws.map (·.amount))
    (msg.withDraws.map (sdk.addressFromBase58 ·.toAddress))
    (msg.withDraws.map (sdk.decodeString ·.tokenAddress))

theorem commitParams_toValues (msg : Layer2CommitMsg) (l2 : Layer2State) :
    Param.toValues (commitParams sdk msg l2) = updateStateValues sdk msg l2 := by
  simp [updateStateArgs, updateStateValues, Param.toValues, Param.toValue, Param.toValues_map]

theorem commitParams_fit (msg : Layer2CommitMsg) (l2 : Layer2State) :
    Param.allUintsFit (commitParams sdk msg l2) = true := by
  simp only [updateStateArgs, Param.allUintsFit, Param.uintsFit,
    Param.allUintsFit_map Param.uint64 (fun _ => rfl),
    Param.allUintsFit_map Param.address (fun _ => rfl),
    Param.allUintsFit_map Param.bytes (fun _ => rfl), Bool.and_true]

theorem commitParams_invoke (gasPrice gasLimit : UInt64) (msg : Layer2CommitMsg) (l2 : Layer2State) :
    ∃ code, newNeoVMInvokeTransaction gasPrice gasLimit sdk.layer2ContractAddress
        (commitParams sdk msg l2) = .ok ⟨gasPrice, gasLimit, code⟩ ∧
      Invokes code sdk.layer2ContractAddress (updateStateValues sdk msg l2) := by
  have hbuild : ∃ code, BuildNeoVMInvokeCode sdk.layer2ContractAddress (commitParams sdk msg l2) =
      .ok code := by
    simp only [BuildNeoVMInvokeCode, BuildNeoVMParam, buildParam, updateStateArgs,
      BuildNeoVMParam_map Param.uint64 (fun x => .pushInteger x.toNat) (fun _ => rfl),
      BuildNeoVMParam_map Param.address (fun x => .pushByteArray (arrayBytes 20 x)) (fun _ => rfl),
      BuildNeoVMParam_map Param.bytes Instr.pushByteArray (fun _ => rfl)]
    exact ⟨_, rfl⟩
  obtain ⟨code, hcode⟩ := hbuild
  refine ⟨code, by simp [newNeoVMInvokeTransaction, hcode, bind, Except.bind, pure, Except.pure], ?_⟩
  simpa [commitParams_toValues] using BuildNeoVMInvokeCode_invokes hcode (commitParams_fit sdk msg l2)

/-- **One call of `commitLayer2State2Ontology`** on a message with a layer2 state: whatever the
pre-execution gives, it builds a transaction at gas price 500 whose code invokes the layer2
contract with the message's `updateState` values. A signing error is returned; otherwise the call
ends at the first send that succeeds, if any, and makes the commit's writes under its hash. -/
theorem commitLayer2State2Ontology_eq {fuel : Nat} {msg : Layer2CommitMsg} {l2 : Layer2State}
    (hl : msg.layer2State = some l2) :
    ∃ tx : InvokeTransaction, tx.gasPrice = 500 ∧
      Invokes tx.code sdk.layer2ContractAddress (updateStateValues sdk msg l2) ∧
      commitLayer2State2Ontology sdk node fuel msg =
        match node.signToTransaction tx with
        | .error e => .error ("sign layer2 state commit transaction failed! err: " ++ e)
        | .ok () =>
          match sendUntil node.sendTransaction fuel 0 with
          | none => .sending
          | some (_, txHash) => .committed tx txHash (commitWrites sdk msg l2 txHash) := by
  let gasLimit : UInt64 :=
    match PreExecInvokeNeoVMContract node sdk.layer2ContractAddress (commitParams sdk msg l2) with
    | .error _ => 6000000
    | .ok gas => gas
  obtain ⟨code, hcode, hinv⟩ := commitParams_invoke sdk 500 gasLimit msg l2
  refine ⟨⟨500, gasLimit, code⟩, rfl, hinv, ?_⟩
  simp only [commitLayer2State2Ontology, foldl_copy, List.nil_append, withdrawArgs_eq, hl]
  rw [hcode]

theorem commitLayer2State2Ontology_sent {fuel : Nat} {msg : Layer2CommitMsg}
    {tx : InvokeTransaction} {txHash : Uint256} {writes : List CommitWrite}
    (h : commitLayer2State2Ontology sdk node fuel msg = .committed tx txHash writes) :
    ∃ l2 k, msg.layer2State = some l2 ∧ tx.gasPrice = 500 ∧ node.signToTransaction tx = .ok () ∧
      Invokes tx.code sdk.layer2ContractAddress (updateStateValues sdk msg l2) ∧
      sendUntil node.sendTransaction fuel 0 = some (k, txHash) ∧
      writes = commitWrites sdk msg l2 txHash := by
  cases hl : msg.layer2State with
  | none => simp [commitLayer2State2Ontology, hl] at h
  | some l2 =>
    obtain ⟨tx', hprice, hinv, heq⟩ := @commitLayer2State2Ontology_eq sdk node fuel msg l2 hl
    rw [heq] at h
    cases hsign : node.signToTransaction tx' with
    | error e => simp [hsign] at h
    | ok u =>
      cases hsend : sendUntil node.sendTransaction fuel 0 with
      | none => simp [hsign, hsend] at h
      | some r =>
        obtain ⟨k, H⟩ := r
        simp only [hsign, hsend, CommitOutcome.committed.injEq] at h
        obtain ⟨rfl, rfl, rfl⟩ := h
        exact ⟨l2, k, rfl, hprice, hsign, hinv, rfl, rfl⟩

/-- **A committed call.** When a call commits a message with the transaction `tx` under the
hash `txHash`: the message has a layer2 state `l2`; `tx` is signed, at gas price 500, and its
code invokes the layer2 contract with the message's `updateState` values, the deposit ids in
order and one entry per withdrawal in each of the three arrays; `txHash` is the hash of the
first send that succeeded; and the writes mark each of the message's deposits notified and each
of its withdrawals committed under `txHash`, then save the commit at `l2`'s height. -/
theorem commitLayer2State2Ontology_committed {fuel : Nat} {msg : Layer2CommitMsg}
    {tx : InvokeTransaction} {txHash : Uint256} {writes : List CommitWrite}
    (h : commitLayer2State2Ontology sdk node fuel msg = .committed tx txHash writes) :
    ∃ l2 k, msg.layer2State = some l2 ∧ tx.gasPrice = 500 ∧ node.signToTransaction tx = .ok () ∧
      Invokes tx.code sdk.layer2ContractAddress (updateStateValues sdk msg l2) ∧
      k < fuel ∧ node.sendTransaction k = .ok txHash ∧
      (∀ j < k, ∃ e, node.sendTransaction j = .error e) ∧
      writes = commitWrites sdk msg l2 txHash := by
  obtain ⟨l2, k, hl, hprice, hsign, hinv, hsend, hw⟩ := commitLayer2State2Ontology_sent sdk node h
  obtain ⟨-, hk, hok, hfail⟩ := sendUntil_eq_some_iff.1 hsend
  exact ⟨l2, k, hl, hprice, hsign, hinv, by omega, hok, fun j hj => hfail j (Nat.zero_le j) hj, hw⟩

/-- A block at height 2 that finishes deposit 3 and starts two withdrawals, of ONT and of ONG,
and a node that signs, pre-executes for 100 gas and accepts every send with the hash 7. -/
def sampleCommitMsg : Layer2CommitMsg :=
  ⟨[3], [⟨"w1", 100, 2, .init, "alice", 4, "ont"⟩, ⟨"w2", 100, 2, .init, "bob", 6, "ong"⟩],
    some ⟨2, 1, 0, []⟩⟩

def sampleSdk : OntologySdk :=
  ⟨5, fun s => if s = "alice" then 1 else 2, fun s => if s = "ont" then [1] else [2], fun _ => "h",
    fun _ => "m"⟩

def sampleNode : OntologyNode := ⟨fun _ => .ok (), fun _ => .ok 100, fun _ => .ok 7⟩

/-- Its `updateState` call: the assets, payees and amounts of the two withdrawals and the deposit
id, each slice packed, then the version's text, the height and the root's text, packed, under
the method. -/
def sampleCommitTx : InvokeTransaction :=
  ⟨500, 100, [.pushByteArray [2], .pushByteArray [1], .pushInteger 2, .pack,
    .pushByteArray (arrayBytes 20 (2 : Address)), .pushByteArray (arrayBytes 20 (1 : Address)),
    .pushInteger 2, .pack,
    .pushInteger 6, .pushInteger 4, .pushInteger 2, .pack, .pushInteger 3, .pushInteger 1, .pack,
    .pushByteArray (String.singleton (Char.ofNat 1)).toUTF8.data.toList, .pushInteger 2,
    .pushByteArray "h".toUTF8.data.toList, .pushInteger 7, .pack,
    .pushByteArray "updateState".toUTF8.data.toList, .appCall 5]⟩

def sampleCommitWrites : List CommitWrite :=
  [.updateDepositByID2 3 .notify, .updateWithdraw "w1" .commit "h", .updateWithdraw "w2" .commit "h",
    .saveLayer2Commit "h" "m" 2]

theorem sample_commit_committed :
    ∃ l2 k, sampleCommitMsg.layer2State = some l2 ∧ sampleCommitTx.gasPrice = 500 ∧
      sampleNode.signToTransaction sampleCommitTx = .ok () ∧
      Invokes sampleCommitTx.code sampleSdk.layer2ContractAddress
        (updateStateValues sampleSdk sampleCommitMsg l2) ∧
      k < 1 ∧ sampleNode.sendTransaction k = .ok 7 ∧
      (∀ j < k, ∃ e, sampleNode.sendTransaction j = .error e) ∧
      sampleCommitWrites = commitWrites sampleSdk sampleCommitMsg l2 7 :=
  commitLayer2State2Ontology_committed sampleSdk sampleNode rfl

/-- **A call commits once a send succeeds.** A message with a layer2 state is committed by a call
whose node signs the transaction and accepts one of its first `fuel` sends. -/
theorem commitLayer2State2Ontology_commits {fuel k : Nat} {msg : Layer2CommitMsg}
    {l2 : Layer2State} {hash : Uint256} (hl : msg.layer2State = some l2)
    (hsign : ∀ tx, node.signToTransaction tx = .ok ()) (hk : k < fuel)
    (hok : node.sendTransaction k = .ok hash) :
    ∃ tx txHash, commitLayer2State2Ontology sdk node fuel msg =
      .committed tx txHash (commitWrites sdk msg l2 txHash) := by
  obtain ⟨tx, -, -, heq⟩ := @commitLayer2State2Ontology_eq sdk node fuel msg l2 hl
  obtain ⟨k', txHash, hsend⟩ :=
    @sendUntil_isSome node.sendTransaction fuel 0 k hash (Nat.zero_le k) (by omega) hok
  exact ⟨tx, txHash, by rw [heq, hsign, hsend]⟩

theorem sample_commit_commits :
    ∃ tx txHash, commitLayer2State2Ontology sampleSdk sampleNode 1 sampleCommitMsg =
      .committed tx txHash (commitWrites sampleSdk sampleCommitMsg ⟨2, 1, 0, []⟩ txHash) :=
  @commitLayer2State2Ontology_commits sampleSdk sampleNode 1 0 sampleCommitMsg ⟨2, 1, 0, []⟩ 7 rfl
    (fun _ => rfl) (by decide) rfl

end

end Layer2.Operator
