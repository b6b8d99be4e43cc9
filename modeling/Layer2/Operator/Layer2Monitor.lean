import Layer2.Operator.Layer2Block
import Layer2.Operator.Check

/-! # Following the layer2 chain

`MonitorLayer2Chain` parses, under `mu`, the layer2 blocks above `layer2ChainInfo.Height` while
that height is below the chain's height less one, each once the last commit height read is no
lower than its own. After `checkLayer2State` has marked a commit failed, lowering the height and
setting `needCheck`, the next iteration asks the base chain whether the state root above is
committed after all and skips that height if it is. A parse that fails ends the tick.
-/

namespace Layer2.Operator

open Layer2.LedgerStore (Layer2State)

/-- The base chain's answer to the `getStateRootByHeight` call of `checkLayer2StateByHeight`:
the transaction cannot be built, or its pre-execution's result read as an array of integers,
`none` when the pre-execution fails or returns no result (an array that cannot be read is
empty). -/
inductive StateRootAnswer
  | newTransactionFailed
  | preExec (data : Option (List Int))
  deriving DecidableEq, Repr

/-- `big.Int.Uint64`: the low 64 bits of the absolute value. -/
def bigIntUint64 (x : Int) : UInt64 := UInt64.ofNat x.natAbs

/-- `checkLayer2StateByHeight`: whether the base chain's state root entry for `height` is an
array of three items whose second is `height`, and the error returned, if any. -/
def checkLayer2StateByHeight (answer : StateRootAnswer) (height : UInt64) : Bool × Option String :=
  match answer with
  | .newTransactionFailed => (false, some "new transaction failed!")
  | .preExec none => (false, none)
  | .preExec (some data) =>
    if data.length ≠ 3 then (false, none)
    else if bigIntUint64 (data.getD 1 0) ≠ height then (false, none)
    else (true, none)

/-- What one tick of `MonitorLayer2Chain`'s timer meets on the layer2 chain, on the base chain and
in the database. -/
structure Layer2Tick where
  getCurrentBlockHeight : Except String UInt32
  /-- `GetBlockByHeight`, of which the header's timestamp is read. -/
  getBlockByHeight : UInt32 → Except String UInt32
  getSmartContractEventByBlock : UInt32 → Except String (List Layer2Event)
  /-- `GetLayer2State`, `nil` when it fails. -/
  getLayer2State : UInt32 → Option Layer2State
  /-- `LoadDepositByLayer2TxHash(txHash).ID`. -/
  loadDeposit : String → UInt64
  /-- `GetLayer2CommitHeight()`, asked with the monitor at `height`. -/
  getLayer2CommitHeight : UInt32 → UInt32
  /-- The base chain's answer to `checkLayer2StateByHeight(height)`. -/
  stateRootAnswer : UInt64 → StateRootAnswer

inductive Layer2Output
  /-- The block at `height` parsed: its three batches written and `s.msg` sent on `msgChan`. -/
  | parsed (height : UInt32) (s : ParseState)
  | setChainParseHeight (height : UInt32)
  deriving DecidableEq, Repr

/-- The fields the monitor shares with `checkLayer2State` under `mu`, and what it has done so
far. -/
structure Layer2Monitor where
  height : UInt32
  needCheck : Bool
  out : List Layer2Output
  deriving DecidableEq, Repr

section

variable (codec : Layer2Codec)

/-- `parseLayer2ChainBlock` at `height`: the batches' rows and the message, with the block's
layer2 state. -/
def parseLayer2ChainBlock (t : Layer2Tick) (height : UInt32) : Except String ParseState := do
  let tt ← t.getBlockByHeight height
  let events ← t.getSmartContractEventByBlock height
  let s := parseEvents codec t.loadDeposit tt height events ParseState.empty
  pure { s with msg := { s.msg with layer2State := t.getLayer2State height } }

/-- `checkLayer2StateByHeight(uint64(height + 1))` finds the state root of the height above
committed. -/
def Layer2Tick.committedAbove (t : Layer2Tick) (height : UInt32) : Bool :=
  (checkLayer2StateByHeight (t.stateRootAnswer (height + 1).toUInt64) (height + 1).toUInt64).1

/-- The `needCheck` step of an iteration: the flag is cleared, and the height above is skipped
when the base chain holds its state root. -/
def Layer2Monitor.recheck (t : Layer2Tick) (m : Layer2Monitor) : Layer2Monitor :=
  if m.needCheck then
    if t.committedAbove m.height then { m with needCheck := false, height := m.height + 1 }
    else { m with needCheck := false }
  else m

/-- The loop `for this.layer2ChainInfo.Height < currentHeight - 1` of one tick; `fuel` bounds
its iterations (`parseLayer2UpTo_fuel` shows the distance to `currentHeight` is enough). -/
def parseLayer2UpTo (t : Layer2Tick) (currentHeight : UInt32) : Nat → Layer2Monitor → Layer2Monitor
  | 0, m => m
  | fuel + 1, m =>
    if m.height < currentHeight - 1 then
      if t.getLayer2CommitHeight m.height < m.height then m
      else
        let m := m.recheck t
        let m := { m with height := m.height + 1 }
        match parseLayer2ChainBlock codec t m.height with
        | .error _ => { m with height := m.height - 1 }
        | .ok s =>
          parseLayer2UpTo t currentHeight fuel
            { m with out := m.out ++ [.parsed m.height s, .setChainParseHeight m.height] }
    else m

def layer2MonitorTick (t : Layer2Tick) (m : Layer2Monitor) : Layer2Monitor :=
  match t.getCurrentBlockHeight with
  | .error _ => m
  | .ok currentHeight =>
    if m.height ≥ currentHeight then m
    else parseLayer2UpTo codec t currentHeight (currentHeight.toNat - m.height.toNat) m

def MonitorLayer2Chain : List Layer2Tick → Layer2Monitor → Layer2Monitor
  | [], m => m
  | t :: ticks, m => MonitorLayer2Chain ticks (layer2MonitorTick codec t m)

/-- An `UpdateLayer2Commit` call of `checkLayer2State`, on the fields it shares with the monitor:
one that marks the commit failed lowers the height and sets `needCheck`, under `mu`. -/
def Layer2Monitor.update (m : Layer2Monitor) (u : Layer2CommitUpdate) : Layer2Monitor :=
  if u.state = .failed then { m with height := m.height - 1, needCheck := true } else m

@[simp] theorem Layer2Monitor.update_out (m : Layer2Monitor) (u : Layer2CommitUpdate) :
    (m.update u).out = m.out := by
  unfold Layer2Monitor.update; split_ifs <;> rfl

def parsedOutputs (blocks : List (UInt32 × ParseState)) : List Layer2Output :=
  blocks.flatMap fun b => [.parsed b.1 b.2, .setChainParseHeight b.1]

@[simp] theorem parsedOutputs_nil : parsedOutputs [] = [] := rfl

@[simp] theorem parsedOutputs_cons (b : UInt32 × ParseState) (blocks : List (UInt32 × ParseState)) :
    parsedOutputs (b :: blocks) = .parsed b.1 b.2 :: .setChainParseHeight b.1 :: parsedOutputs blocks :=
  rfl

/-- **What parsing a block records.** `parseLayer2ChainBlock` at `height` succeeds exactly when
the block's header and its events load, and then records, in order, one `layer2tx` row per
transfer of the block, the id of the deposit each transfer from the layer2 address finishes, and
the withdrawal each transfer to that address starts; the message holds those deposit ids and
withdrawals, and the block's layer2 state. -/
theorem parseLayer2ChainBlock_eq (t : Layer2Tick) (height : UInt32) (s : ParseState) :
    parseLayer2ChainBlock codec t height = .ok s ↔
      ∃ tt events, t.getBlockByHeight height = .ok tt ∧
        t.getSmartContractEventByBlock height = .ok events ∧
        s.layer2Txs = (blockTransfers codec events).map
          (fun x => newLayer2Tx codec x.1.txHash tt height x.2.1.contractAddress x.2.2) ∧
        s.finishedDeposits = ((blockTransfers codec events).filter
          (fun x => isLayer2Tx codec x.2.2.transferFrom)).map (fun x => t.loadDeposit x.1.txHash) ∧
        s.withdraws = ((blockTransfers codec events).filter
          (fun x => isLayer2Tx codec x.2.2.transferTo)).map
            (fun x => newWithdraw codec x.1.txHash tt height x.2.1.contractAddress x.2.2) ∧
        s.msg = ⟨s.finishedDeposits, s.withdraws, t.getLayer2State height⟩ := by
  unfold parseLayer2ChainBlock
  cases hb : t.getBlockByHeight height with
  | error e => simp [bind, Except.bind]
  | ok tt =>
    cases he : t.getSmartContractEventByBlock height with
    | error e => simp [bind, Except.bind]
    | ok events =>
      simp only [bind, Except.bind, pure, Except.pure, Except.ok.injEq, parseEvents_eq]
      constructor
      · rintro rfl
        exact ⟨tt, events, rfl, rfl, by simp [ParseState.record, ParseState.empty]⟩
      · rintro ⟨tt, events, ⟨⟩, ⟨⟩, h1, h2, h3, h4⟩
        cases s
        simp_all [ParseState.record, ParseState.empty]

section Recheck

variable (t : Layer2Tick) (m : Layer2Monitor)

@[simp] theorem Layer2Monitor.recheck_out : (m.recheck t).out = m.out := by
  unfold Layer2Monitor.recheck; split_ifs <;> rfl

@[simp] theorem Layer2Monitor.recheck_needCheck : (m.recheck t).needCheck = false := by
  unfold Layer2Monitor.recheck; split_ifs with h <;> simp [h]

theorem Layer2Monitor.recheck_height :
    (m.recheck t).height =
      if m.needCheck && t.committedAbove m.height then m.height + 1 else m.height := by
  unfold Layer2Monitor.recheck
  by_cases hn : m.needCheck <;> by_cases ha : t.committedAbove m.height <;> simp [hn, ha]

theorem Layer2Monitor.recheck_of_not_committed (h : t.committedAbove m.height = false) :
    m.recheck t = { m with needCheck := false } := by
  unfold Layer2Monitor.recheck
  cases hn : m.needCheck <;> simp [h, ← hn]

end Recheck

theorem Layer2Monitor.update_foldl :
    ∀ (us : List Layer2CommitUpdate) (m : Layer2Monitor),
      us.foldl Layer2Monitor.update m =
        { m with height := m.height - UInt32.ofNat (us.countP (·.state = .failed)),
                 needCheck := m.needCheck || us.any (·.state = .failed) }
  | [], m => by
    have h0 : m.height - UInt32.ofNat 0 = m.height := by
      rw [u32_eq_iff, u32_toNat_sub, u32_toNat_UInt32_ofNat]
      have := u32_toNat_lt m.height
      omega
    rw [List.foldl_nil, List.countP_nil, List.any_nil, Bool.or_false, h0]
  | u :: us, m => by
    rw [List.foldl_cons, Layer2Monitor.update_foldl us, Layer2Monitor.update]
    by_cases hu : u.state = .failed
    · rw [if_pos hu]
      have hh : m.height - 1 - UInt32.ofNat (us.countP (·.state = .failed)) =
          m.height - UInt32.ofNat ((u :: us).countP (·.state = .failed)) := by
        rw [u32_eq_iff]
        have := u32_toNat_lt m.height
        simp only [List.countP_cons, hu, decide_True, if_true, u32_toNat_sub, u32_toNat_one,
          u32_toNat_UInt32_ofNat]
        omega
      simp only [hh, List.any_cons, hu, decide_True, Bool.true_or, Bool.or_true]
    · rw [if_neg hu]
      simp [hu]

theorem Layer2Monitor.update_failed (m : Layer2Monitor) (us : List Layer2CommitUpdate)
    (hne : us ≠ []) (hf : ∀ u ∈ us, u.state = .failed) :
    (us.foldl Layer2Monitor.update m).height = m.height - UInt32.ofNat us.length ∧
      (us.foldl Layer2Monitor.update m).needCheck = true ∧
      (us.foldl Layer2Monitor.update m).out = m.out := by
  rw [Layer2Monitor.update_foldl, List.countP_eq_length.2 (by simpa using hf)]
  obtain ⟨u, us, rfl⟩ := List.exists_cons_of_ne_nil hne
  simp [hf u (List.mem_cons_self _ _)]

variable {codec} (t : Layer2Tick) {c : UInt32}

/-- One iteration of the loop from `m`: it stops where it is, or it passes the commit height,
rechecks, and then either puts the height back after a parse that fails or goes on from the
block it parsed above the rechecked height. -/
theorem parseLayer2UpTo_succ (fuel : Nat) (m : Layer2Monitor) :
    (parseLayer2UpTo codec t c (fuel + 1) m = m) ∨
      (m.height < c - 1 ∧ m.height ≤ t.getLayer2CommitHeight m.height ∧
        ((∃ e, parseLayer2ChainBlock codec t ((m.recheck t).height + 1) = .error e ∧
            parseLayer2UpTo codec t c (fuel + 1) m = m.recheck t) ∨
          ∃ s, parseLayer2ChainBlock codec t ((m.recheck t).height + 1) = .ok s ∧
            parseLayer2UpTo codec t c (fuel + 1) m =
              parseLayer2UpTo codec t c fuel
                { m.recheck t with
                  height := (m.recheck t).height + 1,
                  out := m.out ++ [.parsed ((m.recheck t).height + 1) s,
                    .setChainParseHeight ((m.recheck t).height + 1)] })) := by
  rw [parseLayer2UpTo]
  split_ifs with hlt hheld
  · exact .inl rfl
  · refine .inr ⟨hlt, UInt32.not_lt.mp hheld, ?_⟩
    dsimp only
    split
    · exact .inl ⟨_, ‹_›, by simp only [u32_add_one_sub_one]⟩
    · exact .inr ⟨_, ‹_›, by simp only [Layer2Monitor.recheck_out]⟩
  · exact .inl rfl

/-- **One tick's loop.** The blocks the loop parses are at the consecutive heights above the
monitor's, or above the next one when `needCheck`'s recheck skips it, and each is parsed from
the height of the block before it (the monitor's for the first) once the commit height read
there is no lower, and is no higher than `currentHeight`. The monitor ends at the last height
parsed, or where the recheck left it. -/
theorem parseLayer2UpTo_parses (hc : 1 ≤ c.toNat) :
    ∀ (fuel : Nat) (m : Layer2Monitor), ∃ (skip : Bool) (blocks : List (UInt32 × ParseState)),
      (skip = true → m.needCheck = true ∧ m.height ≤ t.getLayer2CommitHeight m.height ∧
        t.committedAbove m.height = true) ∧
      (parseLayer2UpTo codec t c fuel m).out = m.out ++ parsedOutputs blocks ∧
      (parseLayer2UpTo codec t c fuel m).height.toNat =
        m.height.toNat + skip.toNat + blocks.length ∧
      blocks.map (·.1.toNat) = List.range' (m.height.toNat + skip.toNat + 1) blocks.length ∧
      ∀ x ∈ (m.height :: blocks.map Prod.fst).zip blocks,
        x.1 ≤ t.getLayer2CommitHeight x.1 ∧ x.2.1 ≤ c ∧
          parseLayer2ChainBlock codec t x.2.1 = .ok x.2.2
  | 0, m => ⟨false, [], by simp, by simp [parseLayer2UpTo], rfl, rfl, by simp⟩
  | fuel + 1, m => by
    rcases parseLayer2UpTo_succ t fuel m with heq | ⟨hlt, hguard, hnext⟩
    · rw [heq]; exact ⟨false, [], by simp, by simp, rfl, rfl, by simp⟩
    have hc' := u32_toNat_lt c
    have hlt' : m.height.toNat < c.toNat - 1 := by
      rw [u32_lt_iff, u32_toNat_sub, u32_toNat_one] at hlt
      omega
    set skip := m.needCheck && t.committedAbove m.height with hskip
    have hbound : m.height.toNat + skip.toNat + 1 < c.toNat + 1 := by
      have : skip.toNat ≤ 1 := Bool.toNat_le skip
      omega
    have hr : (m.recheck t).height.toNat = m.height.toNat + skip.toNat := by
      rw [Layer2Monitor.recheck_height, ← hskip]
      cases skip
      · rfl
      · exact u32_toNat_succ (by omega)
    have hr1 : ((m.recheck t).height + 1).toNat = m.height.toNat + skip.toNat + 1 := by
      rw [u32_toNat_succ (by omega), hr]
    have hsk : skip = true → m.needCheck = true ∧ m.height ≤ t.getLayer2CommitHeight m.height ∧
        t.committedAbove m.height = true := fun h => by
      rw [hskip, Bool.and_eq_true] at h; exact ⟨h.1, hguard, h.2⟩
    rcases hnext with ⟨e, -, heq⟩ | ⟨s, hs, heq⟩
    · -- the parse failed: the height is the rechecked one
      rw [heq]
      exact ⟨skip, [], hsk, by simp, by rw [hr, List.length_nil, Nat.add_zero], rfl, by simp⟩
    · obtain ⟨skip', blocks, hskip', hout, hheight, hheights, hzip⟩ :=
        parseLayer2UpTo_parses hc fuel
          { m.recheck t with
            height := (m.recheck t).height + 1,
            out := m.out ++ [.parsed ((m.recheck t).height + 1) s,
              .setChainParseHeight ((m.recheck t).height + 1)] }
      dsimp only at hskip' hout hheight hheights hzip
      obtain rfl : skip' = false := by
        cases skip'
        · rfl
        · simp at hskip'
      refine ⟨skip, ((m.recheck t).height + 1, s) :: blocks, hsk, ?_, ?_, ?_, ?_⟩
      · rw [heq, hout]; simp
      · rw [heq, hheight, hr1, List.length_cons]; simp only [Bool.toNat_false]; omega
      · rw [List.map_cons, List.length_cons, List.range'_succ, hheights, hr1]
        simp only [Bool.toNat_false, Nat.add_zero]
      · simp only [List.map_cons, List.zip_cons_cons, List.mem_cons, forall_eq_or_imp]
        refine ⟨⟨hguard, ?_, hs⟩, hzip⟩
        rw [u32_le_iff, hr1]
        omega

theorem parseLayer2UpTo_fuel (hc : 1 ≤ c.toNat) :
    ∀ (fuel : Nat) (m : Layer2Monitor), c.toNat - m.height.toNat ≤ fuel →
      parseLayer2UpTo codec t c (fuel + 1) m = parseLayer2UpTo codec t c fuel m
  | 0, m, h => by
    have : ¬m.height < c - 1 := by
      rw [u32_lt_iff, u32_toNat_sub, u32_toNat_one]; have := u32_toNat_lt c; omega
    simp [parseLayer2UpTo, this]
  | fuel + 1, m, h => by
    rw [parseLayer2UpTo, parseLayer2UpTo]
    by_cases hlt : m.height < c - 1
    swap
    · rw [if_neg hlt, if_neg hlt]
    rw [if_pos hlt, if_pos hlt]
    by_cases hheld : t.getLayer2CommitHeight m.height < m.height
    · rw [if_pos hheld, if_pos hheld]
    rw [if_neg hheld, if_neg hheld]
    dsimp only
    split
    · rfl
    · have hlt' : m.height.toNat < c.toNat - 1 := by
        rw [u32_lt_iff, u32_toNat_sub, u32_toNat_one] at hlt; have := u32_toNat_lt c; omega
      have hr : m.height.toNat ≤ (m.recheck t).height.toNat ∧
          (m.recheck t).height.toNat ≤ m.height.toNat + 1 := by
        rw [Layer2Monitor.recheck_height]
        split
        · rw [u32_toNat_succ (by have := u32_toNat_lt c; omega)]; omega
        · omega
      exact parseLayer2UpTo_fuel hc fuel _ (by
        dsimp only; rw [u32_toNat_succ (by have := u32_toNat_lt c; omega)]; omega)

theorem parseLayer2UpTo_needCheck :
    ∀ (fuel : Nat) (m : Layer2Monitor), (parseLayer2UpTo codec t c fuel m).needCheck = true →
      parseLayer2UpTo codec t c fuel m = m
  | 0, m, _ => rfl
  | fuel + 1, m, h => by
    rcases parseLayer2UpTo_succ t fuel m with heq | ⟨-, -, ⟨e, -, heq⟩ | ⟨s, -, heq⟩⟩
    · exact heq
    · rw [heq] at h; simp at h
    · rw [heq] at h
      rw [parseLayer2UpTo_needCheck fuel _ h] at h
      simp at h

theorem layer2MonitorTick_needCheck (m : Layer2Monitor)
    (h : (layer2MonitorTick codec t m).needCheck = true) : layer2MonitorTick codec t m = m := by
  unfold layer2MonitorTick at h ⊢
  cases hc : t.getCurrentBlockHeight with
  | error e => rfl
  | ok c =>
    simp only [hc] at h ⊢
    split_ifs at h ⊢
    · rfl
    · exact parseLayer2UpTo_needCheck t _ m h

/-- A tick whose first iteration parses the block above the monitor's height, the recheck
skipping nothing, goes on as the tick started after that iteration. -/
theorem layer2MonitorTick_first {m : Layer2Monitor} {s : ParseState}
    (hc : t.getCurrentBlockHeight = .ok c) (hlt : m.height.toNat + 1 < c.toNat)
    (hheld : m.height ≤ t.getLayer2CommitHeight m.height) (hr : t.committedAbove m.height = false)
    (hs : parseLayer2ChainBlock codec t (m.height + 1) = .ok s) :
    layer2MonitorTick codec t m =
      layer2MonitorTick codec t
        { m with
          height := m.height + 1
          needCheck := false
          out := m.out ++ [.parsed (m.height + 1) s, .setChainParseHeight (m.height + 1)] } := by
  have hc' := u32_toNat_lt c
  have h1 : (m.height + 1).toNat = m.height.toNat + 1 := u32_toNat_succ (by omega)
  have hfuel : c.toNat - m.height.toNat = c.toNat - (m.height + 1).toNat + 1 := by omega
  simp only [layer2MonitorTick, hc, ge_iff_le, u32_le_iff, h1]
  rw [if_neg (by omega), if_neg (by omega), hfuel, parseLayer2UpTo,
    if_pos (by rw [u32_lt_iff, u32_toNat_sub, u32_toNat_one]; omega), if_neg (UInt32.not_lt.mpr hheld)]
  simp only [Layer2Monitor.recheck_of_not_committed t m hr, hs, h1]

/-- **One tick.** A tick of `MonitorLayer2Chain` parses the blocks at consecutive heights above
the monitor's, or above the next one when `needCheck`'s recheck finds its state root committed,
each once the commit height read at the height before it is no lower and none above the layer2
chain's current height, and ends at the last height parsed. -/
theorem layer2MonitorTick_parses (m : Layer2Monitor) :
    ∃ (skip : Bool) (blocks : List (UInt32 × ParseState)),
      (skip = true → m.needCheck = true ∧ m.height ≤ t.getLayer2CommitHeight m.height ∧
        t.committedAbove m.height = true) ∧
      (layer2MonitorTick codec t m).out = m.out ++ parsedOutputs blocks ∧
      (layer2MonitorTick codec t m).height.toNat = m.height.toNat + skip.toNat + blocks.length ∧
      blocks.map (·.1.toNat) = List.range' (m.height.toNat + skip.toNat + 1) blocks.length ∧
      ∀ x ∈ (m.height :: blocks.map Prod.fst).zip blocks,
        x.1 ≤ t.getLayer2CommitHeight x.1 ∧ (∃ c, t.getCurrentBlockHeight = .ok c ∧ x.2.1 ≤ c) ∧
          parseLayer2ChainBlock codec t x.2.1 = .ok x.2.2 := by
  unfold layer2MonitorTick
  split
  · exact ⟨false, [], by simp, by simp, rfl, rfl, by simp⟩
  · rename_i c hc
    split_ifs with hge
    · exact ⟨false, [], by simp, by simp, rfl, rfl, by simp⟩
    · have h1 : 1 ≤ c.toNat := by rw [ge_iff_le, u32_le_iff] at hge; omega
      obtain ⟨skip, blocks, hskip, hout, hheight, hheights, hzip⟩ :=
        parseLayer2UpTo_parses t h1 (c.toNat - m.height.toNat) m
      exact ⟨skip, blocks, hskip, hout, hheight, hheights, fun x hx =>
        ⟨(hzip x hx).1, ⟨c, hc, (hzip x hx).2.1⟩, (hzip x hx).2.2⟩⟩

theorem exists_before_of_zip {P : UInt32 → UInt32 × ParseState → Prop} :
    ∀ {blocks : List (UInt32 × ParseState)} {h : UInt32} {skip : Nat},
      blocks.map (·.1.toNat) = List.range' (h.toNat + skip + 1) blocks.length →
      (∀ x ∈ (h :: blocks.map Prod.fst).zip blocks, P x.1 x.2) →
      ∀ b ∈ blocks, ∃ h₀, P h₀ b ∧ h₀.toNat + 1 ≤ b.1.toNat ∧ b.1.toNat ≤ h₀.toNat + 1 + skip
  | [], _, _, _, _, b, hb => absurd hb (List.not_mem_nil b)
  | b :: blocks, h, skip, hheights, hzip, b', hb' => by
    simp only [List.map_cons, List.length_cons, List.range'_succ, List.cons.injEq] at hheights
    simp only [List.map_cons, List.zip_cons_cons, List.mem_cons, forall_eq_or_imp] at hzip
    rcases List.mem_cons.mp hb' with rfl | hb'
    · exact ⟨h, hzip.1, by omega, by omega⟩
    · obtain ⟨h₀, hP, h1, h2⟩ :=
        @exists_before_of_zip P blocks b.1 0 (by rw [hheights.1]; exact hheights.2) hzip.2 b' hb'
      exact ⟨h₀, hP, h1, by omega⟩

theorem MonitorLayer2Chain_blocks :
    ∀ (ticks : List Layer2Tick) (m : Layer2Monitor), ∃ (skip : Bool) (blocks : List (UInt32 × ParseState)),
      (skip = true → m.needCheck = true ∧ ∃ t ∈ ticks,
        m.height ≤ t.getLayer2CommitHeight m.height ∧ t.committedAbove m.height = true) ∧
      (MonitorLayer2Chain codec ticks m).out = m.out ++ parsedOutputs blocks ∧
      (MonitorLayer2Chain codec ticks m).height.toNat = m.height.toNat + skip.toNat + blocks.length ∧
      blocks.map (·.1.toNat) = List.range' (m.height.toNat + skip.toNat + 1) blocks.length ∧
      ∀ b ∈ blocks, ∃ t ∈ ticks, ∃ h₀ : UInt32,
        h₀.toNat + 1 ≤ b.1.toNat ∧ b.1.toNat ≤ h₀.toNat + 1 + skip.toNat ∧
        h₀ ≤ t.getLayer2CommitHeight h₀ ∧ (∃ c, t.getCurrentBlockHeight = .ok c ∧ b.1 ≤ c) ∧
        parseLayer2ChainBlock codec t b.1 = .ok b.2
  | [], m => ⟨false, [], by simp, by simp [MonitorLayer2Chain], rfl, rfl, by simp⟩
  | t :: ticks, m => by
    obtain ⟨skip₁, blocks₁, hskip₁, hout₁, hheight₁, hheights₁, hzip₁⟩ :=
      @layer2MonitorTick_parses codec t m
    obtain ⟨skip₂, blocks₂, hskip₂, hout₂, hheight₂, hheights₂, hblocks₂⟩ :=
      MonitorLayer2Chain_blocks ticks (layer2MonitorTick codec t m)
    have hblocks₁ := @exists_before_of_zip (fun h₀ b => h₀ ≤ t.getLayer2CommitHeight h₀ ∧
      (∃ c, t.getCurrentBlockHeight = .ok c ∧ b.1 ≤ c) ∧ parseLayer2ChainBlock codec t b.1 = .ok b.2)
      blocks₁ m.height skip₁.toNat hheights₁ hzip₁
    simp only [MonitorLayer2Chain]
    cases skip₂ with
    | true =>
      -- the tick left `needCheck` set, so it did nothing
      have hsame := layer2MonitorTick_needCheck t m (hskip₂ rfl).1
      rw [hsame] at hskip₂ hout₂ hheight₂ hheights₂ ⊢
      exact ⟨true, blocks₂, fun _ => ⟨(hskip₂ rfl).1, (hskip₂ rfl).2.elim fun t' ht' =>
          ⟨t', List.mem_cons_of_mem _ ht'.1, ht'.2⟩⟩, hout₂, hheight₂, hheights₂,
        fun b hb => (hblocks₂ b hb).elim fun t' ht' => ⟨t', List.mem_cons_of_mem _ ht'.1, ht'.2⟩⟩
    | false =>
      refine ⟨skip₁, blocks₁ ++ blocks₂, fun h => ?_, ?_, ?_, ?_, ?_⟩
      · obtain ⟨hn, hg, hc⟩ := hskip₁ h
        exact ⟨hn, t, List.mem_cons_self _ _, hg, hc⟩
      · rw [hout₂, hout₁, parsedOutputs, parsedOutputs, parsedOutputs, List.flatMap_append,
          List.append_assoc]
      · rw [hheight₂, hheight₁, List.length_append]; simp only [Bool.toNat_false]; omega
      · rw [List.map_append, hheights₁, hheights₂, hheight₁, List.length_append,
          show m.height.toNat + skip₁.toNat + blocks₁.length + false.toNat + 1 =
            m.height.toNat + skip₁.toNat + 1 + 1 * blocks₁.length by simp; omega,
          List.range'_append, Nat.add_comm blocks₂.length]
      · intro b hb
        rcases List.mem_append.mp hb with hb | hb
        · obtain ⟨h₀, ⟨hg, hc, hp⟩, h1, h2⟩ := hblocks₁ b hb
          exact ⟨t, List.mem_cons_self _ _, h₀, h1, h2, hg, hc, hp⟩
        · obtain ⟨t', ht', h₀, h1, h2, hg, hc, hp⟩ := hblocks₂ b hb
          exact ⟨t', List.mem_cons_of_mem _ ht', h₀, h1, by simp at h2; omega, hg, hc, hp⟩

/-- **Parsing follows the layer2 chain.** Over any run of ticks, the blocks the monitor parses
are at the consecutive heights above its height, or above the next one when `needCheck`'s
recheck found the state root committed; each was parsed by one of the run's ticks, no higher
than the chain's current height then, once the commit height read at the height before it (two
before the first after a skip) was no lower. -/
theorem MonitorLayer2Chain_parses_in_order :
    ∀ (ticks : List Layer2Tick) (m : Layer2Monitor), ∃ (skip : Bool) (blocks : List (UInt32 × ParseState)),
      (skip = true → m.needCheck = true ∧ ∃ t ∈ ticks,
        m.height ≤ t.getLayer2CommitHeight m.height ∧ t.committedAbove m.height = true) ∧
      (MonitorLayer2Chain codec ticks m).out = m.out ++ parsedOutputs blocks ∧
      (MonitorLayer2Chain codec ticks m).height.toNat = m.height.toNat + skip.toNat + blocks.length ∧
      blocks.map (·.1.toNat) = List.range' (m.height.toNat + skip.toNat + 1) blocks.length ∧
      ∀ b ∈ blocks, ∃ t ∈ ticks, ∃ h₀ : UInt32,
        h₀.toNat + 1 ≤ b.1.toNat ∧ b.1.toNat ≤ h₀.toNat + 1 + skip.toNat ∧
        h₀ ≤ t.getLayer2CommitHeight h₀ ∧ (∃ c, t.getCurrentBlockHeight = .ok c ∧ b.1 ≤ c) ∧
        parseLayer2ChainBlock codec t b.1 = .ok b.2
 :=
  MonitorLayer2Chain_blocks

/-- **Failed commits are parsed again.** After `checkLayer2State` marks the commits `us` failed
with the monitor at a height `h` no lower than their number, the next tick that finds the
layer2 chain above `h - |us| + 1`, the commit height no lower than `h - |us|`, no state root for
`h - |us| + 1` on the base chain, and block `h - |us| + 1` loading, parses that block again first,
and the run parses the blocks above it consecutively after it. -/
theorem failed_commits_parsed_again {t : Layer2Tick} {c : UInt32} {s : ParseState}
    (ticks : List Layer2Tick) (m : Layer2Monitor) (us : List Layer2CommitUpdate) (hne : us ≠ [])
    (hf : ∀ u ∈ us, u.state = .failed) (hh : us.length ≤ m.height.toNat)
    (hc : t.getCurrentBlockHeight = .ok c) (hlt : m.height.toNat - us.length + 1 < c.toNat)
    (hheld : m.height - UInt32.ofNat us.length ≤
      t.getLayer2CommitHeight (m.height - UInt32.ofNat us.length))
    (hr : t.committedAbove (m.height - UInt32.ofNat us.length) = false)
    (hs : parseLayer2ChainBlock codec t (m.height - UInt32.ofNat us.length + 1) = .ok s) :
    ∃ blocks : List (UInt32 × ParseState),
      (MonitorLayer2Chain codec (t :: ticks) (us.foldl Layer2Monitor.update m)).out =
        m.out ++ parsedOutputs ((m.height - UInt32.ofNat us.length + 1, s) :: blocks) ∧
      blocks.map (·.1.toNat) = List.range' (m.height.toNat - us.length + 2) blocks.length := by
  obtain ⟨hh', hn', ho⟩ := Layer2Monitor.update_failed m us hne hf
  have hn : (m.height - UInt32.ofNat us.length).toNat = m.height.toNat - us.length := by
    have := u32_toNat_lt m.height
    rw [u32_toNat_sub, u32_toNat_UInt32_ofNat]
    omega
  set m' := us.foldl Layer2Monitor.update m
  have hfirst := @layer2MonitorTick_first codec t c m' s hc (by rw [hh', hn]; omega)
    (hh' ▸ hheld) (hh' ▸ hr) (hh' ▸ hs)
  obtain ⟨skip, blocks, hskip, hout, -, hheights, -⟩ := MonitorLayer2Chain_blocks (t :: ticks)
    { m' with
      height := m'.height + 1
      needCheck := false
      out := m'.out ++ [.parsed (m'.height + 1) s, .setChainParseHeight (m'.height + 1)] }
  obtain rfl : skip = false := Bool.eq_false_iff.2 fun h => Bool.false_ne_true (hskip h).1
  refine ⟨blocks, ?_, ?_⟩
  · rw [MonitorLayer2Chain, hfirst, ← MonitorLayer2Chain, hout, ho, hh']
    simp
  · rw [hheights, hh', u32_toNat_succ (by rw [hn]; have := u32_toNat_lt c; omega), hn]
    rfl

/-- A layer2 chain at height 3 whose blocks hold no transfers, with every commit up to the
monitor's height saved and no state root found on the base chain. -/
def sampleLayer2Codec : Layer2Codec := ⟨"ont", "ong", "transfer", id, id, "00"⟩

def sampleLayer2Tick : Layer2Tick where
  getCurrentBlockHeight := .ok 3
  getBlockByHeight := fun _ => .ok 100
  getSmartContractEventByBlock := fun _ => .ok []
  getLayer2State := fun height => some ⟨height, 1, 0, []⟩
  loadDeposit := fun _ => 0
  getLayer2CommitHeight := fun height => height
  stateRootAnswer := fun _ => .preExec none

def failedUpdate : Layer2CommitUpdate := ⟨0, "tx", 2, .failed⟩

theorem failed_commit_parsed_again_at_two :
    ∃ blocks : List (UInt32 × ParseState),
      (MonitorLayer2Chain sampleLayer2Codec [sampleLayer2Tick]
        ([failedUpdate].foldl Layer2Monitor.update ⟨2, false, []⟩)).out =
          [] ++ parsedOutputs ((2 - UInt32.ofNat 1 + 1, ⟨⟨[], [], some ⟨2, 1, 0, []⟩⟩, [], [], []⟩) :: blocks) ∧
      blocks.map (·.1.toNat) = List.range' (2 - 1 + 2) blocks.length :=
  failed_commits_parsed_again [] ⟨2, false, []⟩ [failedUpdate] (by simp) (by simp [failedUpdate])
    (by decide) rfl (by decide) (by decide) (by decide) rfl

/-- The tick after it parses block 2 again. -/
example : (MonitorLayer2Chain sampleLayer2Codec [sampleLayer2Tick]
    ([failedUpdate].foldl Layer2Monitor.update ⟨2, false, []⟩)).out =
      [.parsed 2 ⟨⟨[], [], some ⟨2, 1, 0, []⟩⟩, [], [], []⟩, .setChainParseHeight 2] := by
  decide

theorem layer2MonitorTick_of_top (m : Layer2Monitor) (h : m.height.toNat = 4294967295) :
    layer2MonitorTick codec t m = m := by
  unfold layer2MonitorTick
  split
  · rfl
  · rename_i c _
    rw [if_pos (by rw [ge_iff_le, u32_le_iff, h]; have := u32_toNat_lt c; omega)]

/-- **A failure at height zero stalls the monitor.** A commit marked failed with the monitor at
height 0 wraps `layer2ChainInfo.Height` round to `2^32 - 1`, at or above every current height of
the layer2 chain: no later tick parses a block or moves the height. -/
theorem failed_commit_at_zero_stalls (ticks : List Layer2Tick) (m : Layer2Monitor)
    (u : Layer2CommitUpdate) (h0 : m.height = 0) (hf : u.state = .failed) :
    (m.update u).height.toNat = 4294967295 ∧ MonitorLayer2Chain codec ticks (m.update u) = m.update u := by
  have htop : (m.update u).height.toNat = 4294967295 := by
    rw [Layer2Monitor.update, if_pos hf, h0]; rfl
  refine ⟨htop, ?_⟩
  induction ticks with
  | nil => rfl
  | cons t ticks ih => rw [MonitorLayer2Chain, layer2MonitorTick_of_top t _ htop, ih]

theorem failed_commit_at_zero_stalls_sample :
    (Layer2Monitor.update ⟨0, false, []⟩ failedUpdate).height.toNat = 4294967295 ∧
      MonitorLayer2Chain sampleLayer2Codec [sampleLayer2Tick] (Layer2Monitor.update ⟨0, false, []⟩ failedUpdate) =
        Layer2Monitor.update ⟨0, false, []⟩ failedUpdate :=
  failed_commit_at_zero_stalls [sampleLayer2Tick] ⟨0, false, []⟩ failedUpdate rfl rfl

end

end Layer2.Operator
