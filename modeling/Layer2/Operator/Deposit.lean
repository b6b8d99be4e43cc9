import Layer2.Common.Basic

/-! # Committing deposits to layer2

`commitDeposit2Layer2` signs a transfer for a deposit and sends it until a send succeeds,
counting the failed sends and giving up when a send fails with the counter at 100. The state
it records is read from the counter alone once the loop is over, so a send that succeeds with
the counter at 100 is recorded as a failure. `depositLoop` calls it for each deposit received
on `depositChain` until it returns no error.
-/

namespace Layer2.Operator

inductive DepositState
  | event
  | commit
  | failed
  deriving DecidableEq, Repr

structure Deposit where
  txHash : String
  tt : UInt32
  height : UInt32
  state : DepositState
  fromAddress : String
  amount : UInt64
  tokenAddress : String
  id : UInt64
  deriving DecidableEq, Repr

/-- The arguments of `UpdateDepositByID`: the deposit's id, its new state, and the layer2
transaction hash or the time of the failure. -/
structure DepositUpdate where
  id : UInt64
  state : DepositState
  txHash : String
  deriving DecidableEq, Repr

structure Layer2Sdk where
  /-- `NewTransferTransaction` of the deposit's token, `SetPayer` and `SignToTransaction`. -/
  signedTransfer : Deposit → Except String Unit
  /-- The hash and the error of the `i`-th `SendTransaction`, counting from `0`. -/
  sendTransaction : Nat → Uint256 × Option String
  toHexString : Uint256 → String
  /-- `time.Now().Format("2006-01-02 15:04:05")`. -/
  now : String

/-- The send loop of `commitDeposit2Layer2`, from the send made with `counter` failed sends
behind it. It ends with the counter and the hash of the last send; the counter never passes
100. -/
def sendLoop (sendTransaction : Nat → Uint256 × Option String) (counter : Fin 101) :
    Fin 101 × Uint256 :=
  let (hash, err) := sendTransaction counter
  match err with
  | some _ =>
    if h : counter.val = 100 then (counter, hash)
    else sendLoop sendTransaction ⟨counter.val + 1, by omega⟩
  | none => (counter, hash)
termination_by 100 - counter.val

def commitDeposit2Layer2 (sdk : Layer2Sdk) (deposit : Deposit) : Except String DepositUpdate := do
  sdk.signedTransfer deposit
  let (counter, hash) := sendLoop sdk.sendTransaction 0
  if counter.val = 100 then
    pure ⟨deposit.id, .failed, sdk.now⟩
  else
    pure ⟨deposit.id, .commit, sdk.toHexString hash⟩

/-- `depositLoop` over the deposits received on `depositChain`, in order. Each is committed by
calling `commitDeposit2Layer2` until it returns no error, `retries d` being the SDK as the
successive calls for `d` find it; when every call fails the loop is still retrying `d` and
records nothing for the deposits behind it. -/
def depositLoop (retries : Deposit → List Layer2Sdk) : List Deposit → List DepositUpdate
  | [] => []
  | deposit :: deposits =>
    match (retries deposit).findSome? fun sdk => (commitDeposit2Layer2 sdk deposit).toOption with
    | some update => update :: depositLoop retries deposits
    | none => []

/-- Where the send loop from `counter` ends: at the first send before the hundredth that
succeeds, and otherwise at the hundredth, with the hash that send returned. -/
def firstSend (sendTransaction : Nat → Uint256 × Option String) (counter : Nat) : Nat × Uint256 :=
  match (List.range' counter (100 - counter)).find? (fun i => (sendTransaction i).2.isNone) with
  | some i => (i, (sendTransaction i).1)
  | none => (100, (sendTransaction 100).1)

theorem sendLoop_eq (sendTransaction : Nat → Uint256 × Option String) (counter : Fin 101) :
    Prod.map Fin.val id (sendLoop sendTransaction counter) = firstSend sendTransaction counter := by
  induction counter using sendLoop.induct sendTransaction with
  | case1 x hash _ hx hs =>
    obtain ⟨x, _⟩ := x
    subst hx
    rw [sendLoop]
    simp [hs, firstSend]
    rfl
  | case2 x hash _ hx hs ih =>
    have hr : 100 - x.val = (100 - (x.val + 1)) + 1 := by omega
    rw [sendLoop]
    simp only [hs, hx, dite_false]
    rw [ih, firstSend, firstSend, hr, List.range'_succ, List.find?_cons_of_neg _ (by simp [hs])]
  | case3 x hash hs =>
    rw [sendLoop]
    simp only [hs]
    rcases Nat.lt_or_ge x.val 100 with hx | hx
    · have hr : 100 - x.val = (100 - (x.val + 1)) + 1 := by omega
      rw [firstSend, hr, List.range'_succ, List.find?_cons_of_pos _ (by simp [hs])]
      simp [hs]
    · obtain ⟨x, _⟩ := x
      obtain rfl : x = 100 := by simp only at hx; omega
      simp [firstSend, hs]
      rfl

theorem commitDeposit2Layer2_eq {sdk : Layer2Sdk} {deposit : Deposit}
    (h : sdk.signedTransfer deposit = .ok ()) :
    commitDeposit2Layer2 sdk deposit =
      .ok (if (firstSend sdk.sendTransaction 0).1 = 100 then ⟨deposit.id, .failed, sdk.now⟩
        else ⟨deposit.id, .commit, sdk.toHexString (firstSend sdk.sendTransaction 0).2⟩) := by
  have hl : Prod.map Fin.val id (sendLoop sdk.sendTransaction 0) = firstSend sdk.sendTransaction 0 :=
    sendLoop_eq sdk.sendTransaction 0
  rw [← hl]
  simp only [commitDeposit2Layer2, h, Prod.map_fst, Prod.map_snd, id_eq]
  split_ifs <;> rfl

/-- **What is recorded for a signed transfer.** The deposit is committed with the hash of the
first send that succeeds, when one of the first hundred does, and is recorded as failed
otherwise, whatever the hundred-and-first send returned. -/
theorem commitDeposit2Layer2_records {sdk : Layer2Sdk} {deposit : Deposit}
    (h : sdk.signedTransfer deposit = .ok ()) :
    commitDeposit2Layer2 sdk deposit =
      .ok (match (List.range 100).find? (fun i => (sdk.sendTransaction i).2.isNone) with
        | some i => ⟨deposit.id, .commit, sdk.toHexString (sdk.sendTransaction i).1⟩
        | none => ⟨deposit.id, .failed, sdk.now⟩) := by
  rw [commitDeposit2Layer2_eq h, firstSend, Nat.sub_zero, ← List.range_eq_range']
  cases hf : (List.range 100).find? (fun i => (sdk.sendTransaction i).2.isNone) with
  | none => simp
  | some i =>
    have hi : i < 100 := List.mem_range.mp (List.mem_of_find?_eq_some hf)
    simp [hi.ne]

def thirdSendSdk : Layer2Sdk where
  signedTransfer _ := .ok ()
  sendTransaction i := if i < 2 then (0, some "send failed") else (7, none)
  toHexString h := toString h.toNat
  now := "2020-06-01 12:00:00"

def sampleDeposit : Deposit := ⟨"tx", 0, 1, .event, "from", 100, "ont", 1⟩

theorem third_send_committed :
    commitDeposit2Layer2 thirdSendSdk sampleDeposit =
      .ok (match (List.range 100).find? (fun i => (thirdSendSdk.sendTransaction i).2.isNone) with
        | some i => ⟨sampleDeposit.id, .commit, thirdSendSdk.toHexString
            (thirdSendSdk.sendTransaction i).1⟩
        | none => ⟨sampleDeposit.id, .failed, thirdSendSdk.now⟩) :=
  commitDeposit2Layer2_records rfl

def lateSendSdk : Layer2Sdk :=
  { thirdSendSdk with
    sendTransaction := fun i => if i < 100 then (0, some "send failed") else (7, none) }

/-- The hundred-and-first send succeeds and the deposit is recorded as failed, with the time in
place of the layer2 transaction hash. -/
theorem late_send_recorded_failed (deposit : Deposit) :
    (lateSendSdk.sendTransaction 100).2 = none ∧
      commitDeposit2Layer2 lateSendSdk deposit = .ok ⟨deposit.id, .failed, lateSendSdk.now⟩ := by
  have hf : (firstSend lateSendSdk.sendTransaction 0).1 = 100 := by decide
  refine ⟨rfl, ?_⟩
  rw [commitDeposit2Layer2_eq rfl, if_pos hf]

section Transfer

variable {Tx : Type}

/-- The SDK calls that build and sign a deposit's transfer, over the SDK's transaction type
`Tx`. The token addresses are constants of the operator outside this repository. -/
structure Layer2Native (Tx : Type) where
  ONT_CONTRACT_ADDRESS : String
  ONG_CONTRACT_ADDRESS : String
  /-- `Native.Ont.NewTransferTransaction(0, 20000, ADDRESS_EMPTY, toAddr, deposit.Amount)`. -/
  ontNewTransferTransaction : Deposit → Except String Tx
  /-- `Native.Ong.NewTransferTransaction`, with the same arguments. -/
  ongNewTransferTransaction : Deposit → Except String Tx
  /-- `SetPayer(tx, layer2Account.Address)` and `SignToTransaction(tx, layer2Account)`, Go's
  `nil` transaction being `none`. -/
  signToTransaction : Option Tx → Except String Unit

/-- The transaction `commitDeposit2Layer2` builds: `nil` when the token is neither ONT nor
ONG, as neither branch of its `if` runs. -/
def newTransfer (native : Layer2Native Tx) (deposit : Deposit) : Except String (Option Tx) :=
  if deposit.tokenAddress = native.ONT_CONTRACT_ADDRESS then
    some <$> native.ontNewTransferTransaction deposit
  else if deposit.tokenAddress = native.ONG_CONTRACT_ADDRESS then
    some <$> native.ongNewTransferTransaction deposit
  else .ok none

def Layer2Native.signedTransfer (native : Layer2Native Tx) (deposit : Deposit) :
    Except String Unit := do
  let tx ← newTransfer native deposit
  native.signToTransaction tx

theorem map_some_ne_ok_none {x : Except String Tx} : (some <$> x) ≠ .ok none := by
  cases x <;> simp [Functor.map, Except.map]

theorem newTransfer_nil_iff (native : Layer2Native Tx) (deposit : Deposit) :
    newTransfer native deposit = .ok none ↔
      deposit.tokenAddress ≠ native.ONT_CONTRACT_ADDRESS ∧
        deposit.tokenAddress ≠ native.ONG_CONTRACT_ADDRESS := by
  unfold newTransfer
  split_ifs with hont hong
  · exact iff_of_false map_some_ne_ok_none fun h => h.1 hont
  · exact iff_of_false map_some_ne_ok_none fun h => h.2 hong
  · exact iff_of_true rfl ⟨hont, hong⟩

theorem signedTransfer_of_foreign_token (native : Layer2Native Tx) {deposit : Deposit}
    (hont : deposit.tokenAddress ≠ native.ONT_CONTRACT_ADDRESS)
    (hong : deposit.tokenAddress ≠ native.ONG_CONTRACT_ADDRESS) :
    native.signedTransfer deposit = native.signToTransaction none := by
  rw [Layer2Native.signedTransfer, (newTransfer_nil_iff native deposit).2 ⟨hont, hong⟩]
  rfl

end Transfer

end Layer2.Operator
