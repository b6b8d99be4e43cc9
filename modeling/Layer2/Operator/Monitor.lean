import Layer2.Operator.Deposit

/-! # Following the base chain

`MonitorOntologyChain` parses the base-chain blocks above `ontologyChainInfo.Height` up to the
chain's height, saving each parsed height with `SetChainParseHeight`; a fetch that fails puts
the height back and ends the tick. Each `deposit` notify of the layer2 contract is saved and sent
on `depositChain`, except when the save fails at a height other than 8378403: it is then skipped
while its height counts as parsed. A layer2 notify with no states, or a `deposit` one with fewer
than seven, makes `states[i]` panic, and the process stops.
-/

namespace Layer2.Operator

structure Notify where
  contractAddress : String
  states : List String
  deriving DecidableEq, Repr

structure Event where
  txHash : String
  notify : List Notify
  deriving DecidableEq, Repr

/-- How `parseOntologyChainBlock` decodes a notify's states. -/
structure Codec where
  /-- `hex.DecodeString`, its error ignored. -/
  decodeString : String → Bytes
  /-- `revertHexString`, `AddressFromHexString` and `ToBase58`. -/
  playerAddress : String → String
  bytesToInt : Bytes → UInt64

/-- What one tick of the timer meets on the base chain and in the database. -/
structure Tick where
  getCurrentBlockHeight : Except String UInt32
  /-- `GetBlockByHeight`, of which the header's timestamp is read. -/
  getBlockByHeight : UInt32 → Except String UInt32
  getSmartContractEventByBlock : UInt32 → Except String (List Event)
  /-- The error of `SaveDeposit`, if any. -/
  saveDeposit : Deposit → Option String

def depositMethod : Bytes := [100, 101, 112, 111, 115, 105, 116]

/-- The deposit `parseOntologyChainBlock` builds from a `deposit` notify's states, which it reads
at indices 1, 2, 3 and 6. -/
def newDeposit (codec : Codec) (event : Event) (tt height : UInt32) (states : List String)
    (h : 6 < states.length) : Deposit where
  txHash := event.txHash
  tt := tt
  height := height
  state := .event
  fromAddress := codec.playerAddress states[2]
  amount := codec.bytesToInt (codec.decodeString states[3])
  tokenAddress := states[6]
  id := codec.bytesToInt (codec.decodeString states[1])

inductive Output
  /-- `this.depositChain <- deposit`. -/
  | send (deposit : Deposit)
  | setChainParseHeight (height : UInt32)
  /-- `states[i]` past the end of a notify's states: the process panics. -/
  | panic
  deriving DecidableEq, Repr

/-- The monitor: `ontologyChainInfo.Height`, what it has done so far, and whether the process
has panicked. -/
structure Monitor where
  height : UInt32
  out : List Output
  panicked : Bool
  deriving DecidableEq, Repr

/-- What parsing a block's notifies comes to: the deposits sent on `depositChain`, in order, and
whether a notify with too few states then made the process panic. -/
structure Parsed where
  sent : List Deposit
  panicked : Bool
  deriving DecidableEq, Repr

section

variable (layer2ContractAddress : String) (codec : Codec)

/-- The body of `parseOntologyChainBlock`'s loop for one notify: the deposits it sends, `none`
when `states[0]`, or a state of a `deposit` notify, is past the end. -/
def parseNotify (t : Tick) (tt height : UInt32) (event : Event) (notify : Notify) :
    Option (List Deposit) :=
  if notify.contractAddress ≠ layer2ContractAddress then some [] else
  match notify.states with
  | [] => none
  | method :: _ =>
    if codec.decodeString method ≠ depositMethod then some [] else
    if h : 6 < notify.states.length then
      let deposit := newDeposit codec event tt height notify.states h
      if (t.saveDeposit deposit).isSome ∧ height ≠ 8378403 then some [] else some [deposit]
    else none

/-- The loops over the events and their notifies, given as the notifies in order with their
events: the deposits sent up to the first notify that panics. -/
def parseNotifies (t : Tick) (tt height : UInt32) : List (Event × Notify) → Parsed
  | [] => ⟨[], false⟩
  | (event, notify) :: rest =>
    match parseNotify layer2ContractAddress codec t tt height event notify with
    | none => ⟨[], true⟩
    | some sent =>
      let parsed := parseNotifies t tt height rest
      ⟨sent ++ parsed.sent, parsed.panicked⟩

def blockDeposits (t : Tick) (tt height : UInt32) (events : List Event) : Parsed :=
  parseNotifies layer2ContractAddress codec t tt height
    (events.flatMap fun event => event.notify.map (event, ·))

def parseOntologyChainBlock (t : Tick) (height : UInt32) : Except String Parsed := do
  let tt ← t.getBlockByHeight height
  let events ← t.getSmartContractEventByBlock height
  pure (blockDeposits layer2ContractAddress codec t tt height events)

/-- The loop `for currentHeight > this.ontologyChainInfo.Height` of one tick; `fuel` bounds
its iterations (`parseUpTo_fuel` shows the distance to `currentHeight` is enough). -/
def parseUpTo (t : Tick) (currentHeight : UInt32) : Nat → Monitor → Monitor
  | 0, m => m
  | fuel + 1, m =>
    if currentHeight > m.height then
      let m := { m with height := m.height + 1 }
      match parseOntologyChainBlock layer2ContractAddress codec t m.height with
      | .error _ => { m with height := m.height - 1 }
      | .ok parsed =>
        let m := { m with out := m.out ++ parsed.sent.map Output.send }
        if parsed.panicked then { m with out := m.out ++ [Output.panic], panicked := true }
        else parseUpTo t currentHeight fuel
          { m with out := m.out ++ [Output.setChainParseHeight m.height] }
    else m

theorem parseUpTo_fuel (t : Tick) (currentHeight : UInt32) :
    ∀ (fuel : Nat) (m : Monitor), currentHeight.toNat - m.height.toNat ≤ fuel →
      parseUpTo layer2ContractAddress codec t currentHeight (fuel + 1) m =
        parseUpTo layer2ContractAddress codec t currentHeight fuel m
  | 0, m, h => by
    have : ¬currentHeight > m.height := by rw [gt_iff_lt, u32_lt_iff]; omega
    simp [parseUpTo, this]
  | fuel + 1, m, h => by
    rw [parseUpTo, parseUpTo]
    split_ifs with hc
    · have hm : (m.height + 1).toNat = m.height.toNat + 1 := u32_toNat_succ
        (by have := u32_toNat_lt currentHeight; rw [gt_iff_lt, u32_lt_iff] at hc; omega)
      dsimp only
      split
      · rfl
      · split_ifs
        · rfl
        · exact parseUpTo_fuel t currentHeight fuel _ (by simp only [hm]; omega)
    · rfl

end

structure Chain where
  timestamp : UInt32 → UInt32
  events : UInt32 → List Event

/-- A tick reads the chain: every fetch that succeeds returns the chain's data. -/
def Tick.Reads (chain : Chain) (t : Tick) : Prop :=
  (∀ height tt, t.getBlockByHeight height = .ok tt → tt = chain.timestamp height) ∧
    ∀ height events, t.getSmartContractEventByBlock height = .ok events →
      events = chain.events height

section

variable (layer2ContractAddress : String) (codec : Codec) (chain : Chain)

variable {layer2ContractAddress codec chain} {t : Tick}

end

def sampleCodec : Codec := ⟨fun s => if s = "deposit" then depositMethod else [], id, fun _ => 1⟩

def foreignTokenStates : List String := ["deposit", "01", "02", "03", "", "", "xyz"]

def foreignTokenEvent : Event := ⟨"tx", [⟨"layer2", foreignTokenStates⟩]⟩

def foreignTokenTick : Tick where
  getCurrentBlockHeight := .ok 1
  getBlockByHeight _ := .ok 0
  getSmartContractEventByBlock _ := .ok [foreignTokenEvent]
  saveDeposit _ := none

/-- The deposit parsed from an event of another token reaches `SetPayer` and
`SignToTransaction` with the `nil` transaction. -/
theorem foreign_token_signs_nil {Tx : Type} (native : Layer2Native Tx)
    (hont : "xyz" ≠ native.ONT_CONTRACT_ADDRESS) (hong : "xyz" ≠ native.ONG_CONTRACT_ADDRESS) :
    parseOntologyChainBlock "layer2" sampleCodec foreignTokenTick 1 =
        .ok ⟨[newDeposit sampleCodec foreignTokenEvent 0 1 foreignTokenStates (by decide)], false⟩ ∧
      newTransfer native (newDeposit sampleCodec foreignTokenEvent 0 1 foreignTokenStates (by decide)) =
        .ok none ∧
      native.signedTransfer (newDeposit sampleCodec foreignTokenEvent 0 1 foreignTokenStates (by decide)) =
        native.signToTransaction none :=
  ⟨rfl, (newTransfer_nil_iff native _).2 ⟨hont, hong⟩, signedTransfer_of_foreign_token native hont hong⟩

def sampleNative : Layer2Native Unit where
  ONT_CONTRACT_ADDRESS := "ont"
  ONG_CONTRACT_ADDRESS := "ong"
  ontNewTransferTransaction _ := .ok ()
  ongNewTransferTransaction _ := .ok ()
  signToTransaction _ := .ok ()

theorem sample_foreign_token_signs_nil :
    "xyz" ≠ sampleNative.ONT_CONTRACT_ADDRESS ∧ "xyz" ≠ sampleNative.ONG_CONTRACT_ADDRESS ∧
      parseOntologyChainBlock "layer2" sampleCodec foreignTokenTick 1 =
        .ok ⟨[newDeposit sampleCodec foreignTokenEvent 0 1 foreignTokenStates (by decide)], false⟩ ∧
      newTransfer sampleNative
          (newDeposit sampleCodec foreignTokenEvent 0 1 foreignTokenStates (by decide)) = .ok none ∧
      sampleNative.signedTransfer
          (newDeposit sampleCodec foreignTokenEvent 0 1 foreignTokenStates (by decide)) =
        sampleNative.signToTransaction none :=
  ⟨by decide, by decide, foreign_token_signs_nil sampleNative (by decide) (by decide)⟩

end Layer2.Operator
