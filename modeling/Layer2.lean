import Layer2.Common.Basic
import Layer2.LedgerStore.Types
import Layer2.LedgerStore.Store
import Layer2.LedgerStore.Execute
import Layer2.LedgerStore.Submit
import Layer2.LedgerStore.Init
import Layer2.LedgerStore.Commit
import Layer2.LedgerStore.Run
import Layer2.LedgerStore.Atomicity
import Layer2.LedgerStore.Canonical
import Layer2.LedgerStore.Recovery
import Layer2.LedgerStore.HeaderIndex
import Layer2.LedgerStore.AccountState
import Layer2.LedgerStore.StateHash
import Layer2.Operator.Deposit
import Layer2.Operator.Monitor
import Layer2.Operator.Check
import Layer2.Utils.NeoVM
import Layer2.Utils.BuildParams
import Layer2.Operator.Layer2Block
import Layer2.Operator.Layer2Monitor
import Layer2.Operator.StateCommit
import Layer2.Operator.Relay
