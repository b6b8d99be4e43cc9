import Layer2.Operator.Layer2Monitor
import Layer2.Operator.StateCommit

/-! # Relaying layer2 blocks to the base chain

`Start` runs `MonitorLayer2Chain`, `commitMsgLoop` and `checkMsgLoop` side by side: the monitor
sends each parsed block's message on `msgChan`, and `commitMsgLoop` takes the messages off in
order and calls `commitLayer2State2Ontology` on each until a call returns no error. A
`RelayEvent` is one step of one loop, atomic at the granularity of its lock. The channel is
unbuffered; letting a message wait on it admits every interleaving of the source, and more.
-/

namespace Layer2.Operator

open Layer2.NeoVM
open Layer2.LedgerStore (Layer2State)

/-- The messages the monitor has sent on `msgChan`, in the order sent. -/
def sentMessages (out : List Layer2Output) : List Layer2CommitMsg :=
  out.filterMap fun
    | .parsed _ s => some s.msg
    | .setChainParseHeight _ => none

@[simp] theorem sentMessages_append (xs ys : List Layer2Output) :
    sentMessages (xs ++ ys) = sentMessages xs ++ sentMessages ys :=
  List.filterMap_append _ _ _

theorem mem_sentMessages {msg : Layer2CommitMsg} {out : List Layer2Output}
    (h : msg ∈ sentMessages out) : ∃ height s, .parsed height s ∈ out ∧ msg = s.msg := by
  obtain ⟨o, ho, hmsg⟩ := List.mem_filterMap.1 h
  cases o with
  | parsed height s => exact ⟨height, s, ho, (Option.some.inj hmsg).symm⟩
  | setChainParseHeight _ => cases hmsg

structure Relay where
  monitor : Layer2Monitor
  /-- How many of the monitor's messages `commitMsgLoop` has taken off `msgChan`. -/
  taken : Nat
  /-- The database writes of the commits so far. -/
  writes : List CommitWrite

inductive RelayEvent
  /-- A tick of `MonitorLayer2Chain`'s timer. -/
  | tick (t : Layer2Tick)
  /-- An `UpdateLayer2Commit` call of `checkLayer2State`. -/
  | update (u : Layer2CommitUpdate)
  /-- A call of `commitLayer2State2Ontology` by `commitMsgLoop`, with the node as it finds it. -/
  | call (node : OntologyNode)

/-- A commit `commitMsgLoop` made: the message, its layer2 state, and the transaction sent and
its hash. -/
structure Commit where
  msg : Layer2CommitMsg
  l2 : Layer2State
  tx : InvokeTransaction
  txHash : Uint256

section

variable (codec : Layer2Codec) (sdk : OntologySdk) (fuel : Nat)

/-- One step; `none` is a panic, which ends the process. A call commits the first message left
on the channel and takes it off once committed; after an error, or while its sends fail, the
message stays for the next call. -/
def relayStep (r : Relay) : RelayEvent → Option Relay
  | .tick t => some { r with monitor := layer2MonitorTick codec t r.monitor }
  | .update u => some { r with monitor := r.monitor.update u }
  | .call node =>
    match (sentMessages r.monitor.out)[r.taken]? with
    | none => some r
    | some msg =>
      match commitLayer2State2Ontology sdk node fuel msg with
      | .panic => none
      | .error _ | .sending => some r
      | .committed _ _ writes => some { r with taken := r.taken + 1, writes := r.writes ++ writes }

def relayRun : List RelayEvent → Relay → Option Relay
  | [], r => some r
  | e :: es, r => (relayStep codec sdk fuel r e).bind (relayRun es)

/-- From `r` to `r'` the commit loop made the commits `commits`: it has taken off the channel
the messages it had taken and then the committed ones, none it was not sent, and its writes grew
by those of the commits, in order. -/
def Relay.Commits (r r' : Relay) (commits : List Commit) : Prop :=
  r'.taken = r.taken + commits.length ∧ r'.taken ≤ (sentMessages r'.monitor.out).length ∧
    (sentMessages r'.monitor.out).take r'.taken =
      (sentMessages r.monitor.out).take r.taken ++ commits.map (·.msg) ∧
    r'.writes = r.writes ++ commits.flatMap fun c => commitWrites sdk c.msg c.l2 c.txHash

theorem Relay.Commits.of_sent {r r' : Relay} (new : List Layer2Output)
    (hout : r'.monitor.out = r.monitor.out ++ new) (ht : r'.taken = r.taken)
    (hw : r'.writes = r.writes) (htaken : r.taken ≤ (sentMessages r.monitor.out).length) :
    Relay.Commits sdk r r' [] := by
  rw [Relay.Commits, hout, ht, hw, sentMessages_append, List.take_append_of_le_length htaken]
  simpa using le_trans htaken (Nat.le_add_right _ _)

theorem Relay.Commits.trans {r₁ r₂ r₃ : Relay} {cs₁ cs₂ : List Commit}
    (h₁ : Relay.Commits sdk r₁ r₂ cs₁) (h₂ : Relay.Commits sdk r₂ r₃ cs₂) :
    Relay.Commits sdk r₁ r₃ (cs₁ ++ cs₂) := by
  obtain ⟨ht₁, -, htake₁, hw₁⟩ := h₁
  obtain ⟨ht₂, hle₂, htake₂, hw₂⟩ := h₂
  refine ⟨by rw [ht₂, ht₁, List.length_append, Nat.add_assoc], hle₂, ?_, ?_⟩
  · rw [htake₂, htake₁, List.map_append, List.append_assoc]
  · rw [hw₂, hw₁, List.flatMap_append, List.append_assoc]

theorem layer2MonitorTick_sent (t : Layer2Tick) (m : Layer2Monitor) :
    ∃ new, (layer2MonitorTick codec t m).out = m.out ++ new ∧
      ∀ msg ∈ sentMessages new, ∃ height s, parseLayer2ChainBlock codec t height = .ok s ∧
        msg = s.msg := by
  obtain ⟨skip, blocks, -, hout, -, hheights, hzip⟩ := @layer2MonitorTick_parses codec t m
  have hparsed := @exists_before_of_zip (fun _ b => parseLayer2ChainBlock codec t b.1 = .ok b.2)
    blocks m.height skip.toNat hheights fun x hx => (hzip x hx).2.2
  refine ⟨parsedOutputs blocks, hout, fun msg hmsg => ?_⟩
  obtain ⟨height, s, hmem, rfl⟩ := mem_sentMessages hmsg
  obtain ⟨b, hb, hbo⟩ := List.mem_flatMap.1 hmem
  simp only [List.mem_cons, Layer2Output.parsed.injEq, reduceCtorEq, List.mem_nil_iff,
    or_false] at hbo
  obtain ⟨rfl, rfl⟩ := hbo
  obtain ⟨-, hp, -⟩ := hparsed b hb
  exact ⟨b.1, b.2, hp, rfl⟩

theorem relayStep_call {r r' : Relay} {node : OntologyNode}
    (h : relayStep codec sdk fuel r (.call node) = some r') :
    r' = r ∨ ∃ msg tx txHash writes, (sentMessages r.monitor.out)[r.taken]? = some msg ∧
      commitLayer2State2Ontology sdk node fuel msg = .committed tx txHash writes ∧
      r' = { r with taken := r.taken + 1, writes := r.writes ++ writes } := by
  simp only [relayStep] at h
  cases hmsg : (sentMessages r.monitor.out)[r.taken]? with
  | none => simp only [hmsg, Option.some.injEq] at h; exact .inl h.symm
  | some msg =>
    simp only [hmsg] at h
    cases hc : commitLayer2State2Ontology sdk node fuel msg <;>
      simp only [hc, Option.some.injEq, reduceCtorEq] at h
    · exact .inl h.symm
    · exact .inl h.symm
    · exact .inr ⟨msg, _, _, _, rfl, hc, h.symm⟩

/-- One step: the commits it makes, none but by a call, and the messages it sends, none but of a
block it parses. -/
theorem relayStep_commits {r r' : Relay} {e : RelayEvent}
    (h : relayStep codec sdk fuel r e = some r')
    (htaken : r.taken ≤ (sentMessages r.monitor.out).length) :
    ∃ commits new, Relay.Commits sdk r r' commits ∧ r'.monitor.out = r.monitor.out ++ new ∧
      (∀ msg ∈ sentMessages new, ∃ t height s, e = .tick t ∧
        parseLayer2ChainBlock codec t height = .ok s ∧ msg = s.msg) ∧
      ∀ c ∈ commits, c.msg.layer2State = some c.l2 ∧ ∃ node, e = .call node ∧
        commitLayer2State2Ontology sdk node fuel c.msg =
          .committed c.tx c.txHash (commitWrites sdk c.msg c.l2 c.txHash) := by
  cases e with
  | tick t =>
    obtain ⟨new, hout, hnew⟩ := layer2MonitorTick_sent codec t r.monitor
    cases h
    refine ⟨[], new, Relay.Commits.of_sent sdk new hout rfl rfl htaken, hout, fun msg hm => ?_,
      by simp⟩
    obtain ⟨height, s, hp, hmsg⟩ := hnew msg hm
    exact ⟨t, height, s, rfl, hp, hmsg⟩
  | update u =>
    cases h
    exact ⟨[], [], Relay.Commits.of_sent sdk [] (by simp) rfl rfl htaken, by simp,
      by simp [sentMessages], by simp⟩
  | call node =>
    rcases relayStep_call codec sdk fuel h with rfl | ⟨msg, tx, txHash, writes, hmsg, hc, rfl⟩
    · exact ⟨[], [], Relay.Commits.of_sent sdk [] (by simp) rfl rfl htaken, by simp,
        by simp [sentMessages], by simp⟩
    obtain ⟨l2, -, hl, -, -, -, -, hw⟩ := commitLayer2State2Ontology_sent sdk node hc
    obtain ⟨hlt, -⟩ := List.getElem?_eq_some_iff.1 hmsg
    refine ⟨[⟨msg, l2, tx, txHash⟩], [], ⟨rfl, hlt, ?_, by simp [hw]⟩, by simp,
      by simp [sentMessages], ?_⟩
    · rw [List.take_succ, hmsg]; rfl
    · simp only [List.mem_singleton, forall_eq]
      exact ⟨hl, node, rfl, hw ▸ hc⟩

theorem relayRun_commits_of_le : ∀ (events : List RelayEvent) {r r' : Relay},
    relayRun codec sdk fuel events r = some r' → r.taken ≤ (sentMessages r.monitor.out).length →
    ∃ commits new, Relay.Commits sdk r r' commits ∧ r'.monitor.out = r.monitor.out ++ new ∧
      (∀ msg ∈ sentMessages new, ∃ t height s, .tick t ∈ events ∧
        parseLayer2ChainBlock codec t height = .ok s ∧ msg = s.msg) ∧
      ∀ c ∈ commits, c.msg.layer2State = some c.l2 ∧ ∃ node, .call node ∈ events ∧
        commitLayer2State2Ontology sdk node fuel c.msg =
          .committed c.tx c.txHash (commitWrites sdk c.msg c.l2 c.txHash)
  | [], r, r', h, htaken => by
    cases h
    exact ⟨[], [], Relay.Commits.of_sent sdk [] (by simp) rfl rfl htaken, by simp,
      by simp [sentMessages], by simp⟩
  | e :: es, r, r', h, htaken => by
    obtain ⟨r₁, h₁, h₂⟩ := Option.bind_eq_some.1 h
    obtain ⟨cs₁, new₁, hc₁, hout₁, hnew₁, hcs₁⟩ := relayStep_commits codec sdk fuel h₁ htaken
    obtain ⟨cs₂, new₂, hc₂, hout₂, hnew₂, hcs₂⟩ := relayRun_commits_of_le es h₂ hc₁.2.1
    refine ⟨cs₁ ++ cs₂, new₁ ++ new₂, Relay.Commits.trans sdk hc₁ hc₂,
      by rw [hout₂, hout₁, List.append_assoc], fun msg hm => ?_, fun c hc => ?_⟩
    · rcases List.mem_append.1 ((sentMessages_append _ _).symm ▸ hm) with hm | hm
      · obtain ⟨t, height, s, rfl, hp, hmsg⟩ := hnew₁ msg hm
        exact ⟨t, height, s, List.mem_cons_self _ _, hp, hmsg⟩
      · obtain ⟨t, height, s, ht, hp, hmsg⟩ := hnew₂ msg hm
        exact ⟨t, height, s, List.mem_cons_of_mem _ ht, hp, hmsg⟩
    · rcases List.mem_append.1 hc with hc | hc
      · obtain ⟨hl, node, rfl, hcall⟩ := hcs₁ c hc
        exact ⟨hl, node, List.mem_cons_self _ _, hcall⟩
      · obtain ⟨hl, node, hn, hcall⟩ := hcs₂ c hc
        exact ⟨hl, node, List.mem_cons_of_mem _ hn, hcall⟩

/-- **The relay over any run.** In every interleaving of the monitor's ticks, the checker's
updates and the commit loop's calls that does not panic, from loops with no message waiting on
the channel: the monitor's outputs only grow; the commits made are of the first messages the
monitor sent in the run, in the order sent, each once; the database writes grow by exactly the
writes of those commits, in that order; and each commit is of the message of a block that a tick
of the run parsed, with a layer2 state, committed by a call of the run. -/
theorem relayRun_commits (events : List RelayEvent) {r r' : Relay}
    (hrun : relayRun codec sdk fuel events r = some r')
    (hidle : r.taken = (sentMessages r.monitor.out).length) :
    ∃ (commits : List Commit) (new : List Layer2Output),
      r'.monitor.out = r.monitor.out ++ new ∧
      commits.map (·.msg) = (sentMessages new).take commits.length ∧
      r'.taken = r.taken + commits.length ∧
      r'.writes = r.writes ++ commits.flatMap (fun c => commitWrites sdk c.msg c.l2 c.txHash) ∧
      ∀ c ∈ commits, c.msg.layer2State = some c.l2 ∧
        (∃ t height s, .tick t ∈ events ∧ parseLayer2ChainBlock codec t height = .ok s ∧
          c.msg = s.msg) ∧
        ∃ node, .call node ∈ events ∧ commitLayer2State2Ontology sdk node fuel c.msg =
          .committed c.tx c.txHash (commitWrites sdk c.msg c.l2 c.txHash) := by
  obtain ⟨commits, new, ⟨ht, -, htake, hw⟩, hout, hnew, hcs⟩ :=
    relayRun_commits_of_le codec sdk fuel events hrun hidle.le
  have hsent : commits.map (·.msg) = (sentMessages new).take commits.length := by
    rw [hout, sentMessages_append, List.take_append_eq_append_take, ht, hidle,
      List.take_of_length_le (Nat.le_add_right _ _), List.take_of_length_le le_rfl,
      Nat.add_sub_cancel_left] at htake
    exact (List.append_cancel_left htake).symm
  refine ⟨commits, new, hout, hsent, ht, hw, fun c hc => ⟨(hcs c hc).1, ?_, (hcs c hc).2⟩⟩
  have hmem : c.msg ∈ sentMessages new :=
    List.mem_of_mem_take (hsent ▸ List.mem_map_of_mem (fun c : Commit => c.msg) hc)
  exact hnew c.msg hmem

/-- Block 2 of the sample chain: a transfer from the layer2 address, which finishes deposit 3,
and two transfers to it, which start withdrawals. -/
def transferEvents : List Layer2Event :=
  [⟨"d1", [⟨"ont", [.string "transfer", .string "00", .string "carol", .uint64 10]⟩]⟩,
    ⟨"w1", [⟨"ont", [.string "transfer", .string "alice", .string "00", .uint64 4]⟩]⟩,
    ⟨"w2", [⟨"ong", [.string "transfer", .string "bob", .string "00", .uint64 6]⟩]⟩]

def transferTick : Layer2Tick :=
  { sampleLayer2Tick with
    getSmartContractEventByBlock := fun _ => .ok transferEvents
    loadDeposit := fun _ => 3 }

/-- The loops with the monitor at height 1 and nothing sent; a tick that parses block 2, then a
call that commits it. -/
def sampleRelay : Relay := ⟨⟨1, false, []⟩, 0, []⟩

def sampleParsed : ParseState :=
  ⟨sampleCommitMsg, [⟨"d1", 100, 1, 0, 2, "00", 10, "ont", "carol"⟩,
    ⟨"w1", 100, 1, 0, 2, "alice", 4, "ont", "00"⟩, ⟨"w2", 100, 1, 0, 2, "bob", 6, "ong", "00"⟩],
    [3], sampleCommitMsg.withDraws⟩

def sampleRelayed : Relay :=
  ⟨⟨2, false, [.parsed 2 sampleParsed, .setChainParseHeight 2]⟩, 1, sampleCommitWrites⟩

theorem sample_relay_run :
    ∃ (commits : List Commit) (new : List Layer2Output),
      sampleRelayed.monitor.out = sampleRelay.monitor.out ++ new ∧
      commits.map (·.msg) = (sentMessages new).take commits.length ∧
      sampleRelayed.taken = sampleRelay.taken + commits.length ∧
      sampleRelayed.writes = sampleRelay.writes ++
        commits.flatMap (fun c => commitWrites sampleSdk c.msg c.l2 c.txHash) ∧
      ∀ c ∈ commits, c.msg.layer2State = some c.l2 ∧
        (∃ t height s, RelayEvent.tick t ∈ [.tick transferTick, .call sampleNode] ∧
          parseLayer2ChainBlock sampleLayer2Codec t height = .ok s ∧ c.msg = s.msg) ∧
        ∃ node, RelayEvent.call node ∈ [.tick transferTick, .call sampleNode] ∧
          commitLayer2State2Ontology sampleSdk node 1 c.msg =
            .committed c.tx c.txHash (commitWrites sampleSdk c.msg c.l2 c.txHash) :=
  @relayRun_commits sampleLayer2Codec sampleSdk 1 [.tick transferTick, .call sampleNode]
    sampleRelay sampleRelayed rfl rfl

theorem parseLayer2ChainBlock_msg {t : Layer2Tick} {height : UInt32} {s : ParseState}
    (h : parseLayer2ChainBlock codec t height = .ok s) :
    s.msg = ⟨s.finishedDeposits, s.withdraws, t.getLayer2State height⟩ := by
  obtain ⟨tt, -, h⟩ := bind_eq_ok.1 h
  obtain ⟨events, -, h⟩ := bind_eq_ok.1 h
  cases h
  simp [parseEvents_eq, ParseState.record, ParseState.empty]

/-- **Relaying one block.** When the monitor parses the block at `height` and a call commits its
message with the transaction `tx` under the hash `txHash`: the block's layer2 state is some
`l2`; the call marks notified exactly the deposits the block finished and commits under
`txHash` exactly the withdrawals it started, in the order of the block's batches, then saves the
commit at `l2`'s height; and `tx`'s code invokes the layer2 contract with the block's state root,
height and version, its finished deposits' ids and, index by index, each of its withdrawals'
amount, payee and asset. -/
theorem relay_block {t : Layer2Tick} {height : UInt32} {s : ParseState} {node : OntologyNode}
    {tx : InvokeTransaction} {txHash : Uint256} {writes : List CommitWrite}
    (hs : parseLayer2ChainBlock codec t height = .ok s)
    (hc : commitLayer2State2Ontology sdk node fuel s.msg = .committed tx txHash writes) :
    ∃ l2, t.getLayer2State height = some l2 ∧
      writes = s.finishedDeposits.map (fun id => .updateDepositByID2 id .notify) ++
        s.withdraws.map (fun w => .updateWithdraw w.txHash .commit (sdk.toHexString txHash)) ++
        [.saveLayer2Commit (sdk.toHexString txHash) (sdk.dump1 s.msg) l2.height.toUInt64] ∧
      Invokes tx.code sdk.layer2ContractAddress
        [.bytes "updateState".toUTF8.data.toList,
          .array [.bytes (sdk.toHexString l2.statesRoot).toUTF8.data.toList, .integer l2.height.toNat,
            .bytes (String.singleton (Char.ofNat l2.version.toNat)).toUTF8.data.toList,
            .array (s.finishedDeposits.map fun id => .integer id.toNat),
            .array (s.withdraws.map fun w => .integer w.amount.toNat),
            .array (s.withdraws.map fun w => .bytes (arrayBytes 20 (sdk.addressFromBase58 w.toAddress))),
            .array (s.withdraws.map fun w => .bytes (sdk.decodeString w.tokenAddress))]] := by
  have hmsg := parseLayer2ChainBlock_msg codec hs
  obtain ⟨l2, -, hl, -, -, hinv, -, hw⟩ := commitLayer2State2Ontology_sent sdk node hc
  rw [hmsg] at hl hinv
  refine ⟨l2, hl, ?_, hinv⟩
  rw [hw, commitWrites, hmsg]

theorem sample_block_relayed :
    ∃ l2, transferTick.getLayer2State 2 = some l2 ∧
      sampleCommitWrites =
        sampleParsed.finishedDeposits.map (fun id => CommitWrite.updateDepositByID2 id .notify) ++
          sampleParsed.withdraws.map
            (fun w => CommitWrite.updateWithdraw w.txHash .commit (sampleSdk.toHexString 7)) ++
          [CommitWrite.saveLayer2Commit (sampleSdk.toHexString 7) (sampleSdk.dump1 sampleParsed.msg)
            l2.height.toUInt64] ∧
      Invokes sampleCommitTx.code sampleSdk.layer2ContractAddress
        [Value.bytes "updateState".toUTF8.data.toList,
          Value.array [.bytes (sampleSdk.toHexString l2.statesRoot).toUTF8.data.toList,
            .integer l2.height.toNat,
            .bytes (String.singleton (Char.ofNat l2.version.toNat)).toUTF8.data.toList,
            .array (sampleParsed.finishedDeposits.map fun id => Value.integer id.toNat),
            .array (sampleParsed.withdraws.map fun w => Value.integer w.amount.toNat),
            .array (sampleParsed.withdraws.map fun w =>
              Value.bytes (arrayBytes 20 (sampleSdk.addressFromBase58 w.toAddress))),
            .array (sampleParsed.withdraws.map fun w =>
              Value.bytes (sampleSdk.decodeString w.tokenAddress))]] :=
  @relay_block sampleLayer2Codec sampleSdk 1 transferTick 2 sampleParsed sampleNode
    sampleCommitTx 7 sampleCommitWrites rfl rfl

end

end Layer2.Operator
