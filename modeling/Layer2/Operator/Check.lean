import Layer2.Common.Basic

/-! # Checking the layer2 commits on the base chain

`checkLayer2State` gives each unconfirmed commit a counter of 100. Each pass asks the base
chain, for each commit still counting, for its event and the height of its transaction: an
answer with an event settles the commit with `UpdateLayer2Commit`, finished when the event's
state is 1 and failed otherwise, any other answer lowers the counter, and a counter down to 1
settles it as failed at height 0. Each counter follows its own answers only (`counterAfter`),
from which `checkLayer2State_settles` reads the whole run.
-/

namespace Layer2.Operator

inductive Layer2MsgState
  | finish
  | failed
  deriving DecidableEq, Repr

structure ContractEvent where
  txHash : String
  state : UInt8
  deriving DecidableEq, Repr

/-- What the base chain answers for one commit in one pass: `GetSmartContractEvent` and, when
that succeeds, `GetBlockHeightByTxHash`. -/
structure Response where
  getSmartContractEvent : Except String (Option ContractEvent)
  getBlockHeightByTxHash : Except String UInt32

/-- An answer that settles a commit: both calls succeed and the event is not `nil`. -/
def Response.answer (r : Response) : Option (ContractEvent × UInt32) :=
  match r.getSmartContractEvent, r.getBlockHeightByTxHash with
  | .ok (some event), .ok heigth => some (event, heigth)
  | _, _ => none

structure Layer2CommitUpdate where
  index : Nat
  txHash : String
  height : UInt64
  state : Layer2MsgState
  deriving DecidableEq, Repr

/-- What `checkLayer2State` reads and writes: `layer2ChainInfo.Height`, `needCheck`, the counters
`txConfirmed`, and the `UpdateLayer2Commit` calls made so far. -/
structure Checker where
  height : UInt32
  needCheck : Bool
  txConfirmed : List Int
  updates : List Layer2CommitUpdate
  deriving DecidableEq, Repr

/-- The body of the loop for the commit `txHash` at index `i`, whose counter is `confirmed`: the
counter's next value and the `UpdateLayer2Commit` call made, if any. -/
def checkOne (txHash : String) (i : Nat) (confirmed : Int) (r : Response) :
    Int × Option Layer2CommitUpdate :=
  if confirmed ≤ 0 then (confirmed, none)
  else if confirmed = 1 then (0, some ⟨i, txHash, 0, .failed⟩)
  else
    match r.getSmartContractEvent, r.getBlockHeightByTxHash with
    | .error _, _ => (confirmed - 1, none)
    | .ok _, .error _ => (confirmed - 1, none)
    | .ok none, .ok _ => (confirmed - 1, none)
    | .ok (some event), .ok heigth =>
      (0, some ⟨i, event.txHash, heigth.toUInt64, if event.state = 1 then .finish else .failed⟩)

/-- One `UpdateLayer2Commit` call: it is recorded, and a `LAYER2MSG_FAILED` one is followed by
`layer2ChainInfo.Height--` and `needCheck = true`. -/
def Checker.record (s : Checker) : Option Layer2CommitUpdate → Checker
  | none => s
  | some update =>
    if update.state = .failed then
      { s with updates := s.updates ++ [update], height := s.height - 1, needCheck := true }
    else { s with updates := s.updates ++ [update] }

/-- `for i, confirmed := range txConfirmed` at index `i`, with `txHash := txHashs[i]`. -/
def checkIndex (txHashs : List String) (respond : Nat → Response) (s : Checker) (i : Nat) :
    Checker :=
  let result := checkOne (txHashs.getD i "") i (s.txConfirmed.getD i 0) (respond i)
  { s.record result.2 with txConfirmed := s.txConfirmed.set i result.1 }

def checkPass (txHashs : List String) (respond : Nat → Response) (s : Checker) : Checker :=
  (List.range s.txConfirmed.length).foldl (checkIndex txHashs respond) s

/-- The `for true` loop from pass `pass` with at most `fuel` passes left: the number of passes
made and the final state, `none` when the fuel runs out first. -/
def checkLoop (txHashs : List String) (respond : Nat → Nat → Response) :
    Nat → Nat → Checker → Option (Nat × Checker)
  | 0, _, _ => none
  | fuel + 1, pass, s =>
    let s := checkPass txHashs (respond pass) s
    if s.txConfirmed.all (· ≤ 0) then some (pass + 1, s)
    else checkLoop txHashs respond fuel (pass + 1) s

/-- `checkLayer2State` over the commits `LoadLayer2Commit_Unconfirmed` returns, `respond pass i`
answering for index `i` in pass `pass`. -/
def checkLayer2State (txHashs : List String) (respond : Nat → Nat → Response) (fuel : Nat)
    (height : UInt32) (needCheck : Bool) : Option (Nat × Checker) :=
  checkLoop txHashs respond fuel 0 ⟨height, needCheck, List.replicate txHashs.length 100, []⟩

/-- How a commit is settled, from its answers `respond pass`: by the first answer with an event
among its first 99 passes, finished when the event's state is 1 and failed otherwise; when there
is none, failed at height 0, under its own hash, in the hundredth pass. -/
def settleUpdate (txHash : String) (respond : Nat → Response) (i : Nat) : Layer2CommitUpdate :=
  match (List.range 99).findSome? fun pass => (respond pass).answer with
  | some (event, heigth) =>
    ⟨i, event.txHash, heigth.toUInt64, if event.state = 1 then .finish else .failed⟩
  | none => ⟨i, txHash, 0, .failed⟩

/-- The pass, counting from 0, in which a commit is settled: the first of its first 99 passes
with an answer that has an event, and the hundredth when there is none. -/
def settlePass (respond : Nat → Response) : Nat :=
  (List.range 99).findIdx fun pass => (respond pass).answer.isSome

/-- The `UpdateLayer2Commit` calls to be made in pass `pass`, in the order of the list: one for
each commit settled in that pass. -/
def passUpdates (txHashs : List String) (respond : Nat → Nat → Response) (pass : Nat) :
    List Layer2CommitUpdate :=
  (List.range txHashs.length).filterMap fun i =>
    if pass = settlePass (fun p => respond p i) then
      some (settleUpdate (txHashs.getD i "") (fun p => respond p i) i)
    else none

section One

variable {txHash : String} {i : Nat} {confirmed : Int} {r : Response}

theorem checkOne_of_nonpos (h : confirmed ≤ 0) : checkOne txHash i confirmed r = (confirmed, none) :=
  if_pos h

theorem checkOne_of_two_le (h : 2 ≤ confirmed) :
    checkOne txHash i confirmed r = match r.answer with
      | some (event, heigth) =>
        (0, some ⟨i, event.txHash, heigth.toUInt64, if event.state = 1 then .finish else .failed⟩)
      | none => (confirmed - 1, none) := by
  rw [checkOne, if_neg (by omega), if_neg (by omega)]
  rcases r with ⟨_ | _ | event, _ | heigth⟩ <;> rfl

theorem checkOne_index {u : Layer2CommitUpdate} (h : (checkOne txHash i confirmed r).2 = some u) :
    u.index = i := by
  unfold checkOne at h
  split_ifs at h
  · cases h; rfl
  · rcases r with ⟨_ | _ | event, _ | heigth⟩ <;> cases h
    rfl

end One

@[simp] theorem Checker.record_updates (s : Checker) (u : Option Layer2CommitUpdate) :
    (s.record u).updates = s.updates ++ u.toList := by
  cases u with
  | none => simp [Checker.record]
  | some u => simp only [Checker.record]; split_ifs <;> rfl

/-- `layer2ChainInfo.Height` has gone down by one and `needCheck` has been set for every
`LAYER2MSG_FAILED` call recorded since they were `height` and `needCheck`. -/
def Consistent (height : UInt32) (needCheck : Bool) (s : Checker) : Prop :=
  s.height = height - UInt32.ofNat (s.updates.countP (·.state = .failed)) ∧
    s.needCheck = (needCheck || s.updates.any (·.state = .failed))

section Consistency

variable {height : UInt32} {needCheck : Bool}

theorem Consistent.record {s : Checker} (h : Consistent height needCheck s)
    (u : Option Layer2CommitUpdate) : Consistent height needCheck (s.record u) := by
  obtain ⟨hh, hn⟩ := h
  cases u with
  | none => exact ⟨hh, hn⟩
  | some u =>
    simp only [Checker.record]
    split_ifs with hu
    · refine ⟨?_, by simp [hn, hu]⟩
      rw [hh, u32_eq_iff]
      have := u32_toNat_lt height
      simp only [List.countP_append, List.countP_singleton, hu, decide_True, if_true,
        u32_toNat_sub, u32_toNat_UInt32_ofNat, u32_toNat_one]
      omega
    · exact ⟨by simp [hh, hu], by simp [hn, hu]⟩

theorem Consistent.pass {s : Checker} (h : Consistent height needCheck s)
    (txHashs : List String) (respond : Nat → Response) :
    Consistent height needCheck (checkPass txHashs respond s) := by
  unfold checkPass
  generalize List.range s.txConfirmed.length = is
  induction is generalizing s with
  | nil => exact h
  | cons i is ih => exact ih (h.record _)

end Consistency

section Trajectory

variable (txHashs : List String) (respond : Nat → Nat → Response)

def counterAfter (i : Nat) : Nat → Int
  | 0 => 100
  | k + 1 => (checkOne (txHashs.getD i "") i (counterAfter i k) (respond k i)).1

theorem counterAfter_succ (i k : Nat) : counterAfter txHashs respond i (k + 1) =
    (checkOne (txHashs.getD i "") i (counterAfter txHashs respond i k) (respond k i)).1 := rfl

def updateAt (i k : Nat) : Option Layer2CommitUpdate :=
  (checkOne (txHashs.getD i "") i (counterAfter txHashs respond i k) (respond k i)).2

/-- The checker after `k` passes: every counter, and the calls made so far, pass by pass and
index by index within a pass. -/
def Reached (k : Nat) (s : Checker) : Prop :=
  s.txConfirmed = (List.range txHashs.length).map (counterAfter txHashs respond · k) ∧
    s.updates = (List.range k).flatMap fun p =>
      (List.range txHashs.length).filterMap (updateAt txHashs respond · p)

theorem filterMap_range_succ {α : Type} (f : Nat → Option α) (k : Nat) :
    (List.range (k + 1)).filterMap f = (List.range k).filterMap f ++ (f k).toList := by
  rw [List.range_succ, List.filterMap_append, List.filterMap_cons, List.filterMap_nil]
  cases f k <;> rfl

theorem filterMap_range_eq_single {α : Type} (j : Nat) (a : α) : ∀ k,
    (List.range k).filterMap (fun p => if p = j then some a else none) = if j < k then [a] else []
  | 0 => rfl
  | k + 1 => by
    rw [filterMap_range_succ, filterMap_range_eq_single j a k]
    split_ifs <;> first | rfl | omega

theorem findSome_range_of_first {f : Nat → Option (ContractEvent × UInt32)} {k : Nat}
    {a : ContractEvent × UInt32} (hk : k < 99) (hnone : ∀ p < k, f p = none) (hk' : f k = some a) :
    (List.range 99).findSome? f = some a := by
  refine List.findSome?_eq_some_iff.2 ⟨List.range k, k, (List.range (98 - k)).map (k + 1 + ·), ?_, hk',
    fun p hp => hnone p (List.mem_range.1 hp)⟩
  rw [show 99 = k + 1 + (98 - k) by omega, List.range_add, List.range_succ, List.append_assoc,
    List.singleton_append]

section Settle

variable (r : Nat → Response)

theorem settlePass_le : settlePass r ≤ 99 :=
  (@List.findIdx_le_length _ (fun pass => (r pass).answer.isSome) (List.range 99)).trans_eq
    (List.length_range 99)

theorem answer_of_lt_settlePass {pass : Nat} (h : pass < settlePass r) : (r pass).answer = none := by
  simpa using List.not_of_lt_findIdx h

theorem settleUpdate_of_lt (txHash : String) (i : Nat) (h : settlePass r < 99) :
    ∃ event heigth, (r (settlePass r)).answer = some (event, heigth) ∧
      settleUpdate txHash r i =
        ⟨i, event.txHash, heigth.toUInt64, if event.state = 1 then .finish else .failed⟩ := by
  have hsome : (r (settlePass r)).answer.isSome := by
    have h' := @List.findIdx_getElem _ (fun pass => (r pass).answer.isSome) (List.range 99)
      (by simpa using h)
    rwa [List.getElem_range] at h'
  obtain ⟨⟨event, heigth⟩, ha⟩ := Option.isSome_iff_exists.1 hsome
  refine ⟨event, heigth, ha, ?_⟩
  rw [settleUpdate, findSome_range_of_first h (fun p hp => answer_of_lt_settlePass r hp) ha]

theorem settleUpdate_of_eq (txHash : String) (i : Nat) (h : settlePass r = 99) :
    settleUpdate txHash r i = ⟨i, txHash, 0, .failed⟩ := by
  rw [settleUpdate, List.findSome?_eq_none_iff.2 fun p hp =>
    answer_of_lt_settlePass r (h ▸ List.mem_range.1 hp)]

end Settle

/-- **One commit in one pass.** Up to its settling pass a commit's counter is `100 - k` after
`k` passes; the settling pass makes its one call, the one `settleUpdate` describes, and leaves
the counter at 0. -/
theorem checkOne_trajectory (i k : Nat) :
    checkOne (txHashs.getD i "") i (if k ≤ settlePass (respond · i) then 100 - (k : Int) else 0)
        (respond k i) =
      (if k + 1 ≤ settlePass (respond · i) then 100 - ((k + 1 : Nat) : Int) else 0,
        if k = settlePass (respond · i) then
          some (settleUpdate (txHashs.getD i "") (respond · i) i) else none) := by
  have hle := settlePass_le (respond · i)
  rcases Nat.lt_trichotomy k (settlePass (respond · i)) with hk | rfl | hk
  · rw [if_pos hk.le, if_pos (Nat.succ_le_of_lt hk), if_neg hk.ne, checkOne_of_two_le (by omega),
      answer_of_lt_settlePass _ hk]
    exact Prod.ext (by simp only; omega) rfl
  · rw [if_pos le_rfl, if_neg (by omega), if_pos rfl]
    rcases hle.lt_or_eq with hlt | heq
    · obtain ⟨event, heigth, ha, hu⟩ := settleUpdate_of_lt _ (txHashs.getD i "") i hlt
      rw [checkOne_of_two_le (by omega), ha, hu]
    · rw [settleUpdate_of_eq _ _ _ heq, heq]
      simp [checkOne]
  · rw [if_neg (by omega), if_neg (by omega), if_neg hk.ne', checkOne_of_nonpos le_rfl]

theorem counterAfter_eq (i : Nat) : ∀ k, counterAfter txHashs respond i k =
    if k ≤ settlePass (respond · i) then 100 - (k : Int) else 0
  | 0 => by simp [counterAfter]
  | k + 1 => by rw [counterAfter_succ, counterAfter_eq i k, checkOne_trajectory]

theorem updateAt_eq (i k : Nat) : updateAt txHashs respond i k =
    if k = settlePass (respond · i) then
      some (settleUpdate (txHashs.getD i "") (respond · i) i) else none := by
  rw [updateAt, counterAfter_eq, checkOne_trajectory]

theorem counterAfter_hundred (i : Nat) : counterAfter txHashs respond i 100 = 0 := by
  rw [counterAfter_eq, if_neg (by have := settlePass_le (respond · i); omega)]

theorem settlePass_lt_of_settled {i k : Nat} (h : counterAfter txHashs respond i k ≤ 0) :
    settlePass (respond · i) < k := by
  have := settlePass_le (respond · i)
  rw [counterAfter_eq] at h
  split_ifs at h <;> omega

theorem updates_of_settled {i k : Nat} (h : counterAfter txHashs respond i k ≤ 0) :
    (List.range k).filterMap (updateAt txHashs respond i) =
      [settleUpdate (txHashs.getD i "") (respond · i) i] := by
  have hu : updateAt txHashs respond i = fun p => if p = settlePass (respond · i) then
      some (settleUpdate (txHashs.getD i "") (respond · i) i) else none :=
    funext (updateAt_eq txHashs respond i)
  rw [hu, filterMap_range_eq_single, if_pos (settlePass_lt_of_settled txHashs respond h)]

theorem updateAt_index {i k : Nat} {u : Layer2CommitUpdate} (h : updateAt txHashs respond i k = some u) :
    u.index = i :=
  checkOne_index h

theorem set_range_map (g : Nat → Int) {n j : Nat} (v : Int) :
    ((List.range n).map g).set j v = (List.range n).map fun i => if i = j then v else g i := by
  refine List.ext_getElem? fun i => ?_
  rw [List.getElem?_set, List.getElem?_map, List.getElem?_map, List.length_map, List.length_range]
  rcases Nat.lt_or_ge i n with hi | hi
  · rw [List.getElem?_range hi]
    by_cases hij : j = i
    · subst hij; simp [hi]
    · simp [hij, Ne.symm hij]
  · rw [List.getElem?_eq_none (by simpa using hi)]
    split_ifs <;> first | rfl | omega

theorem checkPass_steps {k : Nat} {s : Checker} (hs : Reached txHashs respond k s) :
    ∀ j ≤ txHashs.length,
      ((List.range j).foldl (checkIndex txHashs (respond k)) s).txConfirmed =
          (List.range txHashs.length).map (fun i => if i < j then counterAfter txHashs respond i (k + 1)
            else counterAfter txHashs respond i k) ∧
        ((List.range j).foldl (checkIndex txHashs (respond k)) s).updates =
          s.updates ++ (List.range j).filterMap (updateAt txHashs respond · k)
  | 0, _ => ⟨by simp [hs.1], by simp⟩
  | j + 1, hj => by
    obtain ⟨hc, hu⟩ := checkPass_steps hs j (by omega)
    rw [filterMap_range_succ, List.range_succ, List.foldl_append, List.foldl_cons, List.foldl_nil]
    generalize (List.range j).foldl (checkIndex txHashs (respond k)) s = t at hc hu
    have hget : t.txConfirmed.getD j 0 = counterAfter txHashs respond j k := by
      simp [hc, List.getElem?_range (show j < txHashs.length by omega)]
    have hstep : (checkIndex txHashs (respond k) t j).txConfirmed =
        t.txConfirmed.set j (counterAfter txHashs respond j (k + 1)) := by
      show t.txConfirmed.set j (checkOne _ j (t.txConfirmed.getD j 0) _).1 = _
      rw [hget]
      rfl
    have hstepu : (checkIndex txHashs (respond k) t j).updates =
        t.updates ++ (updateAt txHashs respond j k).toList := by
      show (t.record _).updates = _
      rw [Checker.record_updates, hget]
      rfl
    refine ⟨?_, ?_⟩
    · rw [hstep, hc, set_range_map]
      refine List.map_congr_left fun i _ => ?_
      rcases Nat.lt_trichotomy i j with h | rfl | h
      · simp [h, h.ne, Nat.lt_succ_of_lt h]
      · simp
      · simp [h.ne', Nat.not_lt_of_gt h, show ¬ i < j + 1 by omega]
    · rw [hstepu, hu, List.append_assoc]

theorem Reached.pass {k : Nat} {s : Checker} (hs : Reached txHashs respond k s) :
    Reached txHashs respond (k + 1) (checkPass txHashs (respond k) s) := by
  have hlen : s.txConfirmed.length = txHashs.length := by rw [hs.1]; simp
  obtain ⟨hc, hu⟩ := checkPass_steps txHashs respond hs txHashs.length le_rfl
  unfold checkPass
  rw [hlen]
  refine ⟨hc.trans (List.map_congr_left fun i hi => if_pos (List.mem_range.1 hi)), ?_⟩
  rw [hu, hs.2, List.range_succ, List.flatMap_append, List.flatMap_singleton]

section Loop

variable {height : UInt32} {needCheck : Bool}

/-- **The loop's run.** From the checker after `pass` passes, with fuel to reach the hundredth,
the loop ends after the first pass that settles every commit, the hundredth at the latest. -/
theorem checkLoop_settles : ∀ (fuel pass : Nat) (s : Checker), Reached txHashs respond pass s →
    Consistent height needCheck s → pass < 100 → 100 ≤ pass + fuel →
      ∃ passes t, checkLoop txHashs respond fuel pass s = some (passes, t) ∧ passes ≤ 100 ∧
        Reached txHashs respond passes t ∧ Consistent height needCheck t ∧
        ∀ i < txHashs.length, counterAfter txHashs respond i passes ≤ 0
  | 0, pass, _, _, _, hp, hf => absurd hf (by omega)
  | fuel + 1, pass, s, hs, hcons, hp, hf => by
    have hs' := hs.pass
    have hcons' := hcons.pass txHashs (respond pass)
    have hloop : checkLoop txHashs respond (fuel + 1) pass s =
        if (checkPass txHashs (respond pass) s).txConfirmed.all (· ≤ 0) then
          some (pass + 1, checkPass txHashs (respond pass) s)
        else checkLoop txHashs respond fuel (pass + 1) (checkPass txHashs (respond pass) s) := rfl
    generalize checkPass txHashs (respond pass) s = t at hs' hcons' hloop
    have hall : t.txConfirmed.all (· ≤ 0) = true ↔
        ∀ i < txHashs.length, counterAfter txHashs respond i (pass + 1) ≤ 0 := by
      simp [hs'.1]
    rw [hloop]
    by_cases hdone : ∀ i < txHashs.length, counterAfter txHashs respond i (pass + 1) ≤ 0
    · rw [if_pos (hall.2 hdone)]
      exact ⟨pass + 1, t, rfl, by omega, hs', hcons', hdone⟩
    · have hp' : pass + 1 < 100 := by
        by_contra h
        exact hdone fun i _ => by
          rw [show pass + 1 = 100 by omega, counterAfter_hundred]
      rw [if_neg (mt hall.1 hdone)]
      exact checkLoop_settles fuel (pass + 1) t hs' hcons' hp' (by omega)

end Loop

theorem checkLoop_add_fuel : ∀ (fuel extra pass : Nat) (s : Checker) (r : Nat × Checker),
    checkLoop txHashs respond fuel pass s = some r →
      checkLoop txHashs respond (fuel + extra) pass s = some r
  | 0, _, _, _, _, h => by cases h
  | fuel + 1, extra, pass, s, r, h => by
    rw [show fuel + 1 + extra = fuel + extra + 1 by omega]
    simp only [checkLoop] at h ⊢
    split_ifs at h ⊢
    · exact h
    · exact checkLoop_add_fuel fuel extra (pass + 1) _ r h

theorem filterMap_range_index {g : Nat → Option Layer2CommitUpdate} (hg : ∀ i u, g i = some u → u.index = i)
    {i : Nat} : ∀ {n : Nat}, i < n → ((List.range n).filterMap g).filter (·.index == i) = (g i).toList
  | n + 1, hi => by
    rw [List.range_succ, List.filterMap_append, List.filter_append, List.filterMap_cons,
      List.filterMap_nil]
    rcases Nat.lt_succ_iff_lt_or_eq.1 hi with hi | rfl
    · rw [filterMap_range_index hg hi]
      cases hn : g n with
      | none => simp
      | some u => simp [hg n u hn, (Nat.ne_of_gt hi)]
    · rw [List.filter_eq_nil_iff.2 fun u hu => ?_]
      · cases hn : g i with
        | none => rfl
        | some u => simp [hg i u hn]
      · obtain ⟨i', hi', hu⟩ := List.mem_filterMap.1 hu
        simp [hg i' u hu, (List.mem_range.1 hi').ne]

end Trajectory

/-- **`checkLayer2State`'s run.** For every list of commits and every answers of the base chain,
the loop ends within 100 passes, whatever fuel beyond that it is given. It calls
`UpdateLayer2Commit` exactly once per commit, as `settleUpdate` says: by the first answer with
an event among the commit's first 99 passes, finished when that event's state is 1, and failed
at height 0 when there is none. The calls are made pass by pass, each in the commit's
`settlePass`, the hundredth for the fallback. `layer2ChainInfo.Height` has gone down by one and
`needCheck` has been set for each failed commit. -/
theorem checkLayer2State_settles (txHashs : List String) (respond : Nat → Nat → Response)
    (height : UInt32) (needCheck : Bool) :
    ∃ passes s, (∀ fuel, 100 ≤ fuel →
        checkLayer2State txHashs respond fuel height needCheck = some (passes, s)) ∧ passes ≤ 100 ∧
      (∀ i < txHashs.length, s.updates.filter (·.index == i) =
        [settleUpdate (txHashs.getD i "") (fun pass => respond pass i) i]) ∧
      (∀ i < txHashs.length, settlePass (fun pass => respond pass i) < passes) ∧
      s.updates = (List.range passes).flatMap (passUpdates txHashs respond) ∧
      (∀ u ∈ s.updates, u.index < txHashs.length) ∧
      s.height = height - UInt32.ofNat (s.updates.countP (·.state = .failed)) ∧
      s.needCheck = (needCheck || s.updates.any (·.state = .failed)) := by
  have h0 : Reached txHashs respond 0 ⟨height, needCheck, List.replicate txHashs.length 100, []⟩ :=
    ⟨by simp [counterAfter, List.map_const'], rfl⟩
  have hc0 : Consistent height needCheck ⟨height, needCheck, List.replicate txHashs.length 100, []⟩ :=
    ⟨by simp [u32_eq_iff, Nat.mod_eq_of_lt (u32_toNat_lt height)], by simp⟩
  obtain ⟨passes, s, hrun, hp, ⟨-, hu⟩, hcons, hdone⟩ :=
    checkLoop_settles txHashs respond 100 0 _ h0 hc0 (by omega) le_rfl
  refine ⟨passes, s, fun fuel hf => ?_, hp, fun i hi => ?_,
    fun i hi => settlePass_lt_of_settled txHashs respond (hdone i hi), ?_, fun u hu' => ?_, hcons⟩
  · rw [checkLayer2State, show fuel = 100 + (fuel - 100) by omega]
    exact checkLoop_add_fuel txHashs respond 100 _ 0 _ _ hrun
  · rw [hu, List.filter_flatMap]
    simp only [filterMap_range_index (fun i' u => updateAt_index txHashs respond) hi]
    rw [← List.filterMap_eq_flatMap_toList, updates_of_settled txHashs respond (hdone i hi)]
  · simp only [hu, updateAt_eq]
    rfl
  · rw [hu] at hu'
    obtain ⟨p, -, hp'⟩ := List.mem_flatMap.1 hu'
    obtain ⟨i, hi, hui⟩ := List.mem_filterMap.1 hp'
    exact updateAt_index txHashs respond hui ▸ List.mem_range.1 hi

def heightUnreadable : Nat → Nat → Response :=
  fun _ _ => ⟨.ok (some ⟨"commit", 1⟩), .error "not found"⟩

/-- The event with state 1 is obtained in the first pass, and the commit is failed in the
hundredth, at height 0, with `layer2ChainInfo.Height` lowered. -/
theorem finished_event_marked_failed :
    (heightUnreadable 0 0).getSmartContractEvent = .ok (some ⟨"commit", 1⟩) ∧
      checkLayer2State ["commit"] heightUnreadable 100 5 false =
        some (100, ⟨4, true, [0], [⟨0, "commit", 0, .failed⟩]⟩) :=
  ⟨rfl, by decide⟩

end Layer2.Operator
