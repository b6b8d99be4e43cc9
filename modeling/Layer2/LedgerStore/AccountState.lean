import Layer2.LedgerStore.Execute

/-! # Per-account state hashes

`executeBlock` resets its one `CacheDB` before every transaction and hands it, after the loop,
to `calculateChangeStateRoot`: the account hashes it returns come from what the last
transaction wrote, not from the block's write set. Inside `calculateChangeStateRoot` the
hashes are taken while ranging over the map `states`, whose order Go leaves open; the slice
sorted by key is never read.
-/

namespace Layer2.LedgerStore

section

variable (C : Collaborators)

theorem executeTransactions_last_cache {block : Block} {tx : Transaction} :
    ∀ {txs : List Transaction} {overlay overlay' : OverlayDB} {cache cache' : CacheDB}
      {notifies notifies' : List ExecuteNotify},
      executeTransactions C block (txs ++ [tx]) overlay cache notifies =
        .ok (notifies', overlay', cache') →
      ∃ overlay₁ notify, handleTransaction C overlay₁ ⟨∅⟩ block tx = .ok (notify, overlay', cache')
  | [], overlay, _, cache, _, _, _, h => by
    simp only [List.nil_append, executeTransactions] at h
    split at h
    · cases h
    · rename_i notify o c hh
      cases h
      exact ⟨overlay, notify, hh⟩
  | t :: ts, _, _, cache, _, _, _, h => by
    simp only [List.cons_append, executeTransactions] at h
    split at h
    · cases h
    · exact executeTransactions_last_cache h

theorem handleTransaction_other {overlay overlay' : OverlayDB} {cache cache' : CacheDB}
    {block : Block} {tx : Transaction} {notify : ExecuteNotify} {tag : UInt8}
    (ht : tx.txType = .other tag)
    (h : handleTransaction C overlay cache block tx = .ok (notify, overlay', cache')) :
    cache' = cache := by
  simp only [handleTransaction, ht] at h
  cases h
  rfl

theorem calculateChangeStateRoot_empty :
    calculateChangeStateRoot C ⟨∅⟩ = (UINT256_EMPTY, []) := by
  have h : C.rangeStates [] = [] := (C.rangeStates_perm []).eq_nil
  simp [calculateChangeStateRoot, collectStates, h]

theorem executeBlock_accountState {stateHashCheckHeight : UInt32} {stateLog : List StateWrite}
    {block : Block} {result : ExecuteResult}
    (h : executeBlock C stateHashCheckHeight stateLog block = .ok result) :
    ∃ notifies overlay cache,
      executeTransactions C block block.transactions (OverlayDB.new (StateStore.kv stateLog)) ⟨∅⟩ [] =
        .ok (notifies, overlay, cache) ∧
      (result.updatedAccountStateRoot, result.updatedAccountState) =
        calculateChangeStateRoot C cache := by
  cases hx : executeTransactions C block block.transactions (OverlayDB.new (StateStore.kv stateLog))
      ⟨∅⟩ [] with
  | error e =>
    simp only [executeBlock, bind, Except.bind, pure, Except.pure, hx] at h
    repeat' split at h
    all_goals cases h
  | ok r =>
    obtain ⟨notifies, overlay, cache⟩ := r
    refine ⟨notifies, overlay, cache, rfl, ?_⟩
    simp only [executeBlock, bind, Except.bind, pure, Except.pure, hx] at h
    repeat' split at h
    all_goals cases h
    all_goals rfl

/-- **The account state ignores all but the last transaction.** A block that executes and
whose last transaction is neither a deploy nor an invoke gets no account hash and the empty
root, whatever its earlier transactions wrote. -/
theorem executeBlock_last_other_no_accounts {stateHashCheckHeight : UInt32}
    {stateLog : List StateWrite} {block : Block} {result : ExecuteResult} {txs : List Transaction}
    {tx : Transaction} {tag : UInt8} (hlast : block.transactions = txs ++ [tx])
    (ht : tx.txType = .other tag)
    (h : executeBlock C stateHashCheckHeight stateLog block = .ok result) :
    result.updatedAccountStateRoot = UINT256_EMPTY ∧ result.updatedAccountState = [] := by
  obtain ⟨_, _, cache, hx, hr⟩ := executeBlock_accountState C h
  rw [hlast] at hx
  obtain ⟨_, _, hh⟩ := executeTransactions_last_cache C hx
  rw [handleTransaction_other C ht hh, calculateChangeStateRoot_empty] at hr
  exact Prod.mk.inj hr

end

/-- The values written under an account's 41-byte storage keys, in the order the memory table
holds them. -/
def accountValues (memdb : List (Bytes × Bytes)) (accountAddr : Bytes) : List Bytes :=
  (memdb.filter fun e => isAccountUpdateStore e.1 e.2 && e.1.drop 21 == accountAddr).map (·.2)

/-- The (contract address, value) pairs written under an account's 41-byte storage keys. -/
def accountWrites (memdb : List (Bytes × Bytes)) (accountAddr : Bytes) : List (Bytes × Bytes) :=
  (memdb.filter fun e => isAccountUpdateStore e.1 e.2 && e.1.drop 21 == accountAddr).map
    fun e => ((e.1.drop 1).take 20, e.2)

theorem foldl_append_values (vs : List Bytes) :
    vs.foldl (fun o v => some (o.getD [] ++ v)) none =
      if vs = [] then none else some vs.flatten := by
  have h : ∀ (vs : List Bytes) (acc : Bytes),
      vs.foldl (fun o v => some (o.getD [] ++ v)) (some acc) = some (acc ++ vs.flatten) := by
    intro vs
    induction vs with
    | nil => simp
    | cons v vs ih => intro acc; simp [ih]
  cases vs with
  | nil => rfl
  | cons v vs => simp [h]

theorem collectStates_lookup (memdb : List (Bytes × Bytes)) (accountAddr : Bytes) :
    ((collectStates memdb).lookup accountAddr).map KeyState.value =
      (accountValues memdb accountAddr).foldl (fun o v => some (o.getD [] ++ v)) none := by
  unfold collectStates
  rw [show (none : Option Bytes) =
    ((∅ : GoMap Bytes KeyState).lookup accountAddr).map KeyState.value from rfl]
  generalize (∅ : GoMap Bytes KeyState) = acc
  induction memdb generalizing acc with
  | nil => rfl
  | cons e memdb ih =>
    obtain ⟨k, v⟩ := e
    rw [List.foldl_cons, ih]
    simp only [accountValues, List.filter_cons]
    by_cases hk : isAccountUpdateStore k v = true
    · by_cases ha : k.drop 21 = accountAddr
      · subst ha
        cases hl : acc.lookup (k.drop 21) <;> simp [hk, hl, AList.lookup_insert]
      · cases acc.lookup (k.drop 21) <;>
          simp only [hk, if_true] <;> rw [AList.lookup_insert_ne (Ne.symm ha)] <;> simp [ha]
    · simp [hk]

def CacheDB.memdbEntries (cache : CacheDB) : List (Bytes × Bytes) :=
  cache.memdb.entries.map fun e => (e.1, e.2)

theorem calculateChangeStateRoot_hashes (C : Collaborators) (cache : CacheDB) :
    (calculateChangeStateRoot C cache).2.Perm
      ((collectStates cache.memdbEntries).entries.map fun s => C.sha256 s.2.value) := by
  unfold calculateChangeStateRoot CacheDB.memdbEntries
  dsimp only
  have hp := (C.rangeStates_perm ((collectStates (cache.memdb.entries.map fun e => (e.1, e.2))).entries.map
    (·.2))).map fun item => C.sha256 item.value
  rw [List.map_map] at hp
  split_ifs with h
  · rw [List.isEmpty_iff.mp h] at hp
    exact hp
  · exact hp

/-- **An account's leaf is its values, run together.** The bytes `calculateChangeStateRoot`
hashes for an account are the values written under its 41-byte storage keys, in the order of
the memory table, with nothing between them: neither the contract each value belongs to nor
where a value ends. -/
theorem account_leaf_concatenates (C : Collaborators) (cache : CacheDB) (accountAddr : Bytes) :
    ((collectStates cache.memdbEntries).lookup accountAddr).map KeyState.value =
        (if accountValues cache.memdbEntries accountAddr = [] then none
          else some (accountValues cache.memdbEntries accountAddr).flatten) ∧
      (calculateChangeStateRoot C cache).2.Perm
        ((collectStates cache.memdbEntries).entries.map fun s => C.sha256 s.2.value) :=
  ⟨(collectStates_lookup _ _).trans (foldl_append_values _), calculateChangeStateRoot_hashes C cache⟩

def ontBalanceCache : CacheDB := ⟨(∅ : KV).insert (5 :: List.replicate 20 1 ++ List.replicate 20 9) [100]⟩

def ongBalanceCache : CacheDB := ⟨(∅ : KV).insert (5 :: List.replicate 20 2 ++ List.replicate 20 9) [100]⟩

theorem changeStateRoot_ont_eq_ong (C : Collaborators) :
    calculateChangeStateRoot C ontBalanceCache = calculateChangeStateRoot C ongBalanceCache := by
  have h : collectStates ontBalanceCache.memdbEntries = collectStates ongBalanceCache.memdbEntries :=
    AList.ext (by decide)
  unfold calculateChangeStateRoot
  exact congrArg (fun states : GoMap Bytes KeyState =>
    let hashs := (C.rangeStates (states.entries.map (·.2))).map fun item => C.sha256 item.value
    if hashs.isEmpty then (UINT256_EMPTY, []) else (C.hashFullTreeWithLeafHash hashs, hashs)) h

/-- The two caches write the account's balance under different contracts, the bytes hashed into
the account's leaf are `[100]` for both, and so are the hashes and the root. -/
theorem leaf_ignores_contract :
    accountWrites ontBalanceCache.memdbEntries (List.replicate 20 9) ≠
        accountWrites ongBalanceCache.memdbEntries (List.replicate 20 9) ∧
      ((collectStates ontBalanceCache.memdbEntries).lookup (List.replicate 20 9)).map KeyState.value =
        some [100] ∧
      ((collectStates ongBalanceCache.memdbEntries).lookup (List.replicate 20 9)).map KeyState.value =
        some [100] ∧
      calculateChangeStateRoot sampleCollaborators ontBalanceCache =
        calculateChangeStateRoot sampleCollaborators ongBalanceCache :=
  ⟨by decide, by decide, by decide, changeStateRoot_ont_eq_ong sampleCollaborators⟩

/-- Collaborators whose invoke handler writes the value `[1]` under the transaction's payload,
taken as a storage key. -/
def accountCollaborators : Collaborators :=
  { sampleCollaborators with
    handleInvokeTransaction := fun _ _ tx => ⟨(∅ : KV).insert tx.payload [1], 1, none⟩ }

def accountKey : Bytes := 5 :: List.replicate 40 7

def accountBlock (last : Transaction) : Block :=
  ⟨⟨1, 0, 1, 0, 0, [], 0, []⟩, [⟨.invokeNeo, accountKey⟩, last]⟩

def accountResult : ExecuteResult :=
  match executeBlock accountCollaborators 10 [] (accountBlock ⟨.other 0, []⟩) with
  | .ok result => result
  | .error _ => ⟨0, ∅, 0, [], 0, []⟩

theorem account_state_after_other :
    accountResult.updatedAccountStateRoot = UINT256_EMPTY ∧ accountResult.updatedAccountState = [] :=
  @executeBlock_last_other_no_accounts accountCollaborators 10 [] (accountBlock ⟨.other 0, []⟩)
    accountResult [⟨.invokeNeo, accountKey⟩] ⟨.other 0, []⟩ 0 rfl rfl rfl

/-- When the last transaction writes a key that is no account's, the block gets no account
hash, while its write set holds the account written by the first transaction. -/
theorem account_state_from_last_transaction :
    (executeBlock accountCollaborators 10 [] (accountBlock ⟨.invokeNeo, [5]⟩)).toOption.map
      (fun r => (r.updatedAccountState,
        (calculateChangeStateRoot accountCollaborators ⟨r.writeSet⟩).2)) = some ([], [1]) := by
  decide

/-- Collaborators that range over a map in the order `rangeStates` gives, with a tree hash
that is its first leaf, so that the root shows the order of the hashes. -/
def orderedCollaborators (rangeStates : List KeyState → List KeyState)
    (h : ∀ states, (rangeStates states).Perm states) : Collaborators :=
  { sampleCollaborators with
    hashFullTreeWithLeafHash := fun hashs => hashs.headD 0
    rangeStates := rangeStates
    rangeStates_perm := h }

def twoAccountCache : CacheDB :=
  ⟨((∅ : KV).insert (5 :: List.replicate 40 7) [1]).insert (5 :: List.replicate 40 8) [1, 1]⟩

/-- Two orders of ranging over `states` give two hash lists and two roots. -/
theorem account_hashes_follow_map_order :
    calculateChangeStateRoot (orderedCollaborators id fun _ => List.Perm.refl _) twoAccountCache =
        (1, [1, 2]) ∧
      calculateChangeStateRoot (orderedCollaborators List.reverse List.reverse_perm)
        twoAccountCache = (2, [2, 1]) := by
  decide

end Layer2.LedgerStore
