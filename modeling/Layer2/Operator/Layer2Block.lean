import Layer2.LedgerStore.Types

/-! # Parsing a layer2 block

A notify of the ONT or ONG contract with four states, the method `NOTIFY_TRANSFER`, two address
strings and a `uint64` amount is a transfer: it is written to the `layer2tx` table, a transfer
from the layer2 address finishes the deposit the operator paid out with it, and a transfer to
that address starts a withdrawal. The deposit ids and withdrawals go into the block's
`Layer2CommitMsg`; `parseEvents_eq` reads the loop's four accumulators off the transfers.
-/

namespace Layer2.Operator

open Layer2.LedgerStore (Layer2State)

/-- A value of a layer2 notify's `States`, by its dynamic type: a transfer's are strings and a
`uint64` amount, and any other type is `other`. -/
inductive StateValue
  | string (s : String)
  | uint64 (n : UInt64)
  | other
  deriving DecidableEq, Repr

structure Layer2Notify where
  contractAddress : String
  states : List StateValue
  deriving DecidableEq, Repr

structure Layer2Event where
  txHash : String
  notify : List Layer2Notify
  deriving DecidableEq, Repr

/-- The operator's constants and helpers that `parseLayer2ChainBlock` uses, from outside its
file. -/
structure Layer2Codec where
  ONT_REV_CONTRACT_ADDRESS : String
  ONG_REV_CONTRACT_ADDRESS : String
  NOTIFY_TRANSFER : String
  revertHexString : String → String
  /-- `layer2_common.AddressFromBase58`, its error ignored, then `ToHexString`. -/
  addressHex : String → String
  /-- `layer2_common.ADDRESS_EMPTY.ToHexString()`. -/
  emptyAddressHex : String

def isLayer2Tx (codec : Layer2Codec) (addr : String) : Bool :=
  codec.addressHex addr = codec.emptyAddressHex

structure Layer2Tx where
  txHash : String
  tt : UInt32
  state : Nat
  fee : Nat
  height : UInt32
  fromAddress : String
  amount : UInt64
  tokenAddress : String
  toAddress : String
  deriving DecidableEq, Repr

inductive DepositProgress
  | finish
  | notify
  deriving DecidableEq, Repr

inductive WithdrawState
  | init
  | commit
  deriving DecidableEq, Repr

structure Withdraw where
  txHash : String
  tt : UInt32
  height : UInt32
  state : WithdrawState
  toAddress : String
  amount : UInt64
  tokenAddress : String
  deriving DecidableEq, Repr

/-- `Layer2CommitMsg`: the ids of the deposits a block finishes, its withdrawals, and its layer2
state, `none` when `GetLayer2State` failed. -/
structure Layer2CommitMsg where
  deposits : List UInt64
  withDraws : List Withdraw
  layer2State : Option Layer2State
  deriving DecidableEq, Repr

structure Transfer where
  transferFrom : String
  transferTo : String
  transferAmount : UInt64
  deriving DecidableEq, Repr

/-- The locals the loop of `parseLayer2ChainBlock` writes: `msg`, and the rows put in
`insertLayer2TxBatch`, in `updateDepositBatch` (the ids of the deposits set to
`DEPOSIT_FINISH`) and in `insertWithdrawBatch`. -/
structure ParseState where
  msg : Layer2CommitMsg
  layer2Txs : List Layer2Tx
  finishedDeposits : List UInt64
  withdraws : List Withdraw
  deriving DecidableEq, Repr

def ParseState.empty : ParseState := ⟨⟨[], [], none⟩, [], [], []⟩

section

variable (codec : Layer2Codec)

/-- The checks the loop makes of a notify before it reads a transfer from it, in the source's
order; `none` is `continue`. -/
def decodeTransfer (notify : Layer2Notify) : Option Transfer :=
  if notify.contractAddress ≠ codec.ONT_REV_CONTRACT_ADDRESS ∧
      notify.contractAddress ≠ codec.ONG_REV_CONTRACT_ADDRESS then none
  else if notify.states.length ≠ 4 then none
  else if notify.states.getD 0 .other ≠ .string codec.NOTIFY_TRANSFER then none
  else
    match notify.states.getD 1 .other, notify.states.getD 2 .other, notify.states.getD 3 .other with
    | .string transferFrom, .string transferTo, .uint64 transferAmount =>
      some ⟨transferFrom, transferTo, transferAmount⟩
    | _, _, _ => none

def newLayer2Tx (txHash : String) (tt height : UInt32) (contractAddress : String) (t : Transfer) :
    Layer2Tx where
  txHash := txHash
  tt := tt
  fee := 0
  height := height
  state := 1
  fromAddress := t.transferFrom
  amount := t.transferAmount
  tokenAddress := codec.revertHexString contractAddress
  toAddress := t.transferTo

def newWithdraw (txHash : String) (tt height : UInt32) (contractAddress : String) (t : Transfer) :
    Withdraw where
  txHash := txHash
  tt := tt
  height := height
  state := .init
  toAddress := t.transferFrom
  amount := t.transferAmount
  tokenAddress := codec.revertHexString contractAddress

variable (loadDeposit : String → UInt64) (tt height : UInt32)

/-- The loop's body for one notify of `event`; `loadDeposit` is
`LoadDepositByLayer2TxHash(txHash).ID`. -/
def parseTransferNotify (event : Layer2Event) (s : ParseState) (notify : Layer2Notify) :
    ParseState :=
  match decodeTransfer codec notify with
  | none => s
  | some t =>
    let layer2Tx := newLayer2Tx codec event.txHash tt height notify.contractAddress t
    let s := { s with layer2Txs := s.layer2Txs ++ [layer2Tx] }
    let s :=
      if isLayer2Tx codec layer2Tx.fromAddress then
        let id := loadDeposit layer2Tx.txHash
        { s with msg := { s.msg with deposits := s.msg.deposits ++ [id] },
                 finishedDeposits := s.finishedDeposits ++ [id] }
      else s
    if isLayer2Tx codec layer2Tx.toAddress then
      let withdraw := newWithdraw codec event.txHash tt height notify.contractAddress t
      { s with msg := { s.msg with withDraws := s.msg.withDraws ++ [withdraw] },
               withdraws := s.withdraws ++ [withdraw] }
    else s

def parseEvents (events : List Layer2Event) (s : ParseState) : ParseState :=
  events.foldl (fun s event => event.notify.foldl (parseTransferNotify codec loadDeposit tt height event) s) s

def blockTransfers (events : List Layer2Event) : List (Layer2Event × Layer2Notify × Transfer) :=
  events.flatMap fun event => event.notify.filterMap fun notify =>
    (decodeTransfer codec notify).map fun t => (event, notify, t)

/-- `s` with the rows of `transfers` recorded: the `layer2tx` row of each, the deposit each
transfer from the layer2 address finishes, and the withdrawal each transfer to it starts. -/
def ParseState.record (s : ParseState) (transfers : List (Layer2Event × Layer2Notify × Transfer)) :
    ParseState :=
  let finished := (transfers.filter fun x => isLayer2Tx codec x.2.2.transferFrom).map
    fun x => loadDeposit x.1.txHash
  let withdraws := (transfers.filter fun x => isLayer2Tx codec x.2.2.transferTo).map
    fun x => newWithdraw codec x.1.txHash tt height x.2.1.contractAddress x.2.2
  { msg := { s.msg with deposits := s.msg.deposits ++ finished,
                        withDraws := s.msg.withDraws ++ withdraws }
    layer2Txs := s.layer2Txs ++
      transfers.map fun x => newLayer2Tx codec x.1.txHash tt height x.2.1.contractAddress x.2.2
    finishedDeposits := s.finishedDeposits ++ finished
    withdraws := s.withdraws ++ withdraws }

theorem ParseState.record_nil (s : ParseState) : s.record codec loadDeposit tt height [] = s := by
  simp [ParseState.record]

theorem ParseState.record_append (s : ParseState) (xs ys : List (Layer2Event × Layer2Notify × Transfer)) :
    s.record codec loadDeposit tt height (xs ++ ys) =
      (s.record codec loadDeposit tt height xs).record codec loadDeposit tt height ys := by
  simp [ParseState.record, List.filter_append]

theorem parseTransferNotify_eq (event : Layer2Event) (s : ParseState) (notify : Layer2Notify) :
    parseTransferNotify codec loadDeposit tt height event s notify =
      s.record codec loadDeposit tt height
        ((decodeTransfer codec notify).map fun t => (event, notify, t)).toList := by
  unfold parseTransferNotify
  cases decodeTransfer codec notify with
  | none => exact (s.record_nil codec loadDeposit tt height).symm
  | some t =>
    simp only [Option.map_some', Option.toList_some, ParseState.record]
    by_cases hf : isLayer2Tx codec t.transferFrom <;>
      by_cases ht : isLayer2Tx codec t.transferTo <;>
      simp [newLayer2Tx, hf, ht]

/-- **The loop records the block's transfers.** Over any events, the loop appends to each
accumulator the rows of the block's transfers, in order: the message's deposit ids are the
deposit batch's and its withdrawals are the withdrawal batch's. -/
theorem parseEvents_eq (events : List Layer2Event) (s : ParseState) :
    parseEvents codec loadDeposit tt height events s =
      s.record codec loadDeposit tt height (blockTransfers codec events) := by
  induction events generalizing s with
  | nil => exact (s.record_nil codec loadDeposit tt height).symm
  | cons event events ih =>
    have hnotify : ∀ (ns : List Layer2Notify) (s : ParseState),
        ns.foldl (parseTransferNotify codec loadDeposit tt height event) s =
          s.record codec loadDeposit tt height
            (ns.filterMap fun n => (decodeTransfer codec n).map fun t => (event, n, t)) := by
      intro ns
      induction ns with
      | nil => exact fun s => (s.record_nil codec loadDeposit tt height).symm
      | cons n ns ihn =>
        intro s
        rw [List.foldl_cons, ihn, parseTransferNotify_eq, ← ParseState.record_append,
          List.filterMap_cons]
        cases decodeTransfer codec n <;> rfl
    rw [parseEvents, List.foldl_cons, ← parseEvents, ih, hnotify, ← ParseState.record_append]
    rfl

end

end Layer2.Operator
