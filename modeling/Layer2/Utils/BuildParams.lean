import Layer2.Utils.NeoVM

/-! # Building the parameters of a NeoVM call

`BuildNeoVMParam` emits the code that pushes a contract's parameters, the last one first, so
that the first ends on top. Go's type switch picks the push for each dynamic type; any other
value goes through reflection, which takes a pointer's target once, builds a slice as the
`[]interface{}` of its elements, and builds a struct field by field on the alt stack. A `uint`
goes through `int64(v)`, so one of `2^63` or more is pushed as a negative integer.
-/

namespace Layer2.NeoVM

/-- A dynamic value in a `[]interface{}` of parameters, by its Go type; Go's `int` and `uint`
are 64 bits wide. The last four are reached through reflection: `slice` is a slice of another
element type, with its elements; `struct` a struct, with its fields; `ptr` a pointer, with its
target and the `%s` text of the pointer; `other` any other value, with its `%s` text. -/
inductive Param
  | bool (v : Bool)
  | byte (v : UInt8)
  | int (v : BitVec 64)
  | uint (v : UInt64)
  | int32 (v : BitVec 32)
  | uint32 (v : UInt32)
  | int64 (v : BitVec 64)
  | fixed64 (v : BitVec 64)
  | uint64 (v : UInt64)
  | string (v : String)
  | bigInt (v : Int)
  | bytes (v : Bytes)
  | address (v : Address)
  | uint256 (v : Uint256)
  | list (ps : List Param)
  | slice (ps : List Param)
  | struct (fields : List Param)
  | ptr (target : Param) (text : String)
  | other (text : String)
  deriving Repr

/-- `addr[:]` and `ToArray()`: the bytes of a fixed-size array held as a bit vector, byte `i`
being bits `8i` to `8i + 7`. -/
def arrayBytes (count : Nat) {w : Nat} (v : BitVec w) : Bytes :=
  (List.range count).map fun i => UInt8.ofNat (v.toNat >>> (8 * i))

def packList (count : Nat) (code : List Instr) : List Instr :=
  code ++ [.pushInteger count, .pack]

/-- The struct case around its fields: `PUSH0`, `NEWSTRUCT`, `TOALTSTACK`, then
`FROMALTSTACK`. -/
def packStruct (code : List Instr) : List Instr :=
  [.pushInteger 0, .newStruct, .toAltStack] ++ code ++ [.fromAltStack]

def byteElements (bs : Bytes) : List Instr :=
  (bs.map fun b => Instr.pushInteger b.toNat).reverse

mutual
/-- The loop runs from the last parameter to the first and stops at the first error. -/
def BuildNeoVMParam : List Param → Except String (List Instr)
  | [] => .ok []
  | p :: ps => do
    let later ← BuildNeoVMParam ps
    let code ← buildParam p
    pure (later ++ code)

def buildParam : Param → Except String (List Instr)
  | .bool v => .ok [.pushBool v]
  | .byte v => .ok [.pushInteger v.toNat]
  | .int v => .ok [.pushInteger v.toInt]
  | .uint v => .ok [.pushInteger v.toBitVec.toInt]
  | .int32 v => .ok [.pushInteger v.toInt]
  | .uint32 v => .ok [.pushInteger v.toNat]
  | .int64 v => .ok [.pushInteger v.toInt]
  | .fixed64 v => .ok [.pushInteger v.toInt]
  | .uint64 v => .ok [.pushInteger v.toNat]
  | .string v => .ok [.pushByteArray v.toUTF8.data.toList]
  | .bigInt v => .ok [.pushInteger v]
  | .bytes v => .ok [.pushByteArray v]
  | .address v => .ok [.pushByteArray (arrayBytes 20 v)]
  | .uint256 v => .ok [.pushByteArray (arrayBytes 32 v)]
  | .list ps => packList ps.length <$> BuildNeoVMParam ps
  | .slice ps => packList ps.length <$> BuildNeoVMParam ps
  | .struct fields => packStruct <$> buildFields fields
  | .ptr (.list ps) _ => packList ps.length <$> BuildNeoVMParam ps
  | .ptr (.slice ps) _ => packList ps.length <$> BuildNeoVMParam ps
  | .ptr (.bytes bs) _ => .ok (packList bs.length (byteElements bs))
  | .ptr (.struct fields) _ => packStruct <$> buildFields fields
  | .ptr _ text => .error ("unsupported param:" ++ text)
  | .other text => .error ("unsupported param:" ++ text)

/-- The struct's fields in order, each built as `[]interface{}{field.Interface()}` and
appended to the struct on the alt stack. -/
def buildFields : List Param → Except String (List Instr)
  | [] => .ok []
  | field :: fields => do
    let code ← buildParam field
    let rest ← buildFields fields
    pure (code ++ [.dupFromAltStack, .swap, .append] ++ rest)
end

def BuildNeoVMInvokeCode (smartContractAddress : Address) (params : List Param) :
    Except String (List Instr) := do
  let code ← BuildNeoVMParam params
  pure (code ++ [.appCall smartContractAddress])

def NATIVE_INVOKE_NAME : String := "Ontology.Native.Invoke"

def BuildNativeInvokeCode (contractAddress : Address) (version : UInt8) (method : String)
    (params : List Param) : Except String (List Instr) := do
  let code ← BuildNeoVMParam params
  pure (code ++ [.pushByteArray method.toUTF8.data.toList,
    .pushByteArray (arrayBytes 20 contractAddress), .pushInteger version.toNat, .sysCall,
    .pushByteArray NATIVE_INVOKE_NAME.toUTF8.data.toList])

theorem bind_eq_ok {ε α β : Type} {x : Except ε α} {f : α → Except ε β} {b : β} :
    x >>= f = .ok b ↔ ∃ a, x = .ok a ∧ f a = .ok b := by
  cases x <;> simp [bind, Except.bind]

theorem map_eq_ok {ε α β : Type} {x : Except ε α} {f : α → β} {b : β} :
    f <$> x = .ok b ↔ ∃ a, x = .ok a ∧ f a = b := by
  cases x <;> simp [Functor.map, Except.map]

/-- Reflection builds a slice as `BuildNeoVMParam(builder, []interface{}{ps})` and a field as
`BuildNeoVMParam(builder, []interface{}{field.Interface()})`; the definitions above inline
those calls, which this lemma undoes. -/
@[simp] theorem BuildNeoVMParam_singleton (p : Param) : BuildNeoVMParam [p] = buildParam p := by
  simp only [BuildNeoVMParam, bind_pure_comp]
  cases buildParam p <;> rfl

theorem buildParam_slice (ps : List Param) :
    buildParam (.slice ps) = BuildNeoVMParam [.list ps] := by
  rw [BuildNeoVMParam_singleton, buildParam, buildParam]

theorem BuildNeoVMParam_bytes (bs : Bytes) :
    BuildNeoVMParam (bs.map .byte) = .ok (byteElements bs) := by
  induction bs with
  | nil => rfl
  | cons b bs ih => simp [BuildNeoVMParam, ih, buildParam, byteElements]; rfl

theorem buildParam_ptr_bytes (bs : Bytes) (text : String) :
    buildParam (.ptr (.bytes bs) text) = BuildNeoVMParam [.list (bs.map .byte)] := by
  rw [BuildNeoVMParam_singleton, buildParam, buildParam, BuildNeoVMParam_bytes, List.length_map]
  rfl

mutual
/-- The value a parameter stands for: integers at their value, byte-like parameters as their
bytes, lists and slices as arrays and structs as structs, a pointer as its target, and a
`[]byte` behind a pointer as a slice of bytes, so an array of integers. The parameters the
builder refuses stand for `false`. -/
def Param.toValue : Param → Value
  | .bool v => .bool v
  | .byte v => .integer v.toNat
  | .int v => .integer v.toInt
  | .uint v => .integer v.toNat
  | .int32 v => .integer v.toInt
  | .uint32 v => .integer v.toNat
  | .int64 v => .integer v.toInt
  | .fixed64 v => .integer v.toInt
  | .uint64 v => .integer v.toNat
  | .string v => .bytes v.toUTF8.data.toList
  | .bigInt v => .integer v
  | .bytes v => .bytes v
  | .address v => .bytes (arrayBytes 20 v)
  | .uint256 v => .bytes (arrayBytes 32 v)
  | .list ps => .array (Param.toValues ps)
  | .slice ps => .array (Param.toValues ps)
  | .struct fields => .struct (Param.toValues fields)
  | .ptr (.bytes bs) _ => .array (bs.map fun b => .integer b.toNat)
  | .ptr target _ => target.toValue
  | .other _ => .bool false

def Param.toValues : List Param → List Value
  | [] => []
  | p :: ps => p.toValue :: Param.toValues ps
end

mutual
/-- Every `uint` in the parameter is below `2^63`, where `int64(v)` keeps its value. -/
def Param.uintsFit : Param → Bool
  | .uint v => v.toNat < 9223372036854775808
  | .list ps => Param.allUintsFit ps
  | .slice ps => Param.allUintsFit ps
  | .struct fields => Param.allUintsFit fields
  | .ptr target _ => target.uintsFit
  | _ => true

def Param.allUintsFit : List Param → Bool
  | [] => true
  | p :: ps => p.uintsFit && Param.allUintsFit ps
end

@[simp] theorem Param.toValues_length (ps : List Param) : (Param.toValues ps).length = ps.length := by
  induction ps with
  | nil => rfl
  | cons p ps ih => simp [Param.toValues, ih]

theorem uint_toInt {v : UInt64} (h : v.toNat < 9223372036854775808) : v.toBitVec.toInt = v.toNat := by
  rw [BitVec.toInt_eq_toNat_cond, if_pos (by simp only [UInt64.toNat] at h; omega)]
  rfl

/-- Code that, run from `e`, pushes one item reading back as `v` and only adds cells to the
heap. -/
def Pushes (code : List Instr) (e : ExecutionEngine) (v : Value) : Prop :=
  ∃ heap item, run code e = some ⟨heap, item :: e.evaluationStack, e.altStack⟩ ∧
    e.heap <+: heap ∧ Reads heap e.heap.length heap.length item v

def PushesAll (code : List Instr) (e : ExecutionEngine) (vs : List Value) : Prop :=
  ∃ heap items, run code e = some ⟨heap, items ++ e.evaluationStack, e.altStack⟩ ∧
    e.heap <+: heap ∧ ReadsAll heap e.heap.length heap.length items vs

/-- Field code, run with a reference to the struct at `a` on the alt stack: it appends one item
per value to the struct's cell and changes no other cell. -/
def AppendsFields (code : List Instr) (e : ExecutionEngine) (a : Nat) (cell : List StackItem)
    (vs : List Value) : Prop :=
  ∃ heap items, run code e = some ⟨heap, e.evaluationStack, e.altStack⟩ ∧
    e.heap.length ≤ heap.length ∧ Agree e.heap heap 0 a ∧ Agree e.heap heap (a + 1) e.heap.length ∧
    heap[a]? = some (.struct, cell ++ items) ∧ ReadsAll heap e.heap.length heap.length items vs

theorem Pushes.push {i : Instr} {item : StackItem} {v : Value} (e : ExecutionEngine)
    (hstep : step e i = some { e with evaluationStack := item :: e.evaluationStack })
    (hreads : Reads e.heap e.heap.length e.heap.length item v) : Pushes [i] e v :=
  ⟨e.heap, item, by simp [hstep], List.prefix_refl _, hreads⟩

theorem PushesAll.nil (e : ExecutionEngine) : PushesAll [] e [] :=
  ⟨e.heap, [], rfl, List.prefix_refl _, .nil⟩

theorem PushesAll.cons {later code : List Instr} {e : ExecutionEngine} {v : Value} {vs : List Value}
    (hlater : PushesAll later e vs) (hcode : ∀ e', Pushes code e' v) :
    PushesAll (later ++ code) e (v :: vs) := by
  obtain ⟨heap₁, items, hrun₁, hpre₁, hreads₁⟩ := hlater
  obtain ⟨heap₂, item, hrun₂, hpre₂, hreads₂⟩ :=
    hcode ⟨heap₁, items ++ e.evaluationStack, e.altStack⟩
  have hlen := hpre₁.length_le
  refine ⟨heap₂, item :: items, by simp [run_append, hrun₁, hrun₂], hpre₁.trans hpre₂,
    .cons ?_ ?_⟩
  · exact hreads₂.mono hlen le_rfl (Agree.refl _ _ _)
  · exact hreads₁.mono le_rfl hpre₂.length_le (Agree.of_prefix hpre₂ le_rfl)

theorem PushesAll.packList {code : List Instr} {e : ExecutionEngine} {vs : List Value}
    (h : PushesAll code e vs) : Pushes (packList vs.length code) e (.array vs) := by
  obtain ⟨heap, items, hrun, hpre, hreads⟩ := h
  have hpack := run_pack heap items e.evaluationStack e.altStack
  rw [hreads.length_eq] at hpack
  refine ⟨_, _, by rw [NeoVM.packList, run_append, hrun, Option.some_bind, hpack],
    hpre.trans (List.prefix_append _ _), ?_⟩
  exact .array hpre.length_le (by simp) (by simp)
    (hreads.mono le_rfl (by simp) (Agree.of_prefix (List.prefix_append _ _) le_rfl))

theorem AppendsFields.packStruct {code : List Instr} {e : ExecutionEngine} {vs : List Value}
    (h : AppendsFields code
      ⟨e.heap ++ [(.struct, [])], e.evaluationStack, .ref e.heap.length :: e.altStack⟩
      e.heap.length [] vs) : Pushes (packStruct code) e (.struct vs) := by
  obtain ⟨heap, items, hrun, hlen, hagree, -, hcell, hreads⟩ := h
  simp only [List.length_append, List.length_singleton, List.nil_append] at hlen hreads hcell
  have hpre : e.heap <+: heap := prefix_of_agree fun b _ hb => by
    rw [hagree b (Nat.zero_le b) hb, List.getElem?_append_left hb]
  refine ⟨heap, .ref e.heap.length, ?_, hpre,
    .struct le_rfl (by omega) hcell (hreads.mono (by omega) le_rfl (Agree.refl _ _ _))⟩
  rw [NeoVM.packStruct, run_append, run_append]
  simp [step, hrun]

theorem AppendsFields.cons {code rest : List Instr} {heap : List Cell} {stack altStack : List StackItem}
    {a : Nat} {cell : List StackItem} {v : Value} {vs : List Value}
    (hcell : heap[a]? = some (.struct, cell)) (hcode : Pushes code ⟨heap, stack, .ref a :: altStack⟩ v)
    (hrest : ∀ heap' cell', heap'[a]? = some (.struct, cell') →
      AppendsFields rest ⟨heap', stack, .ref a :: altStack⟩ a cell' vs) :
    AppendsFields (code ++ [.dupFromAltStack, .swap, .append] ++ rest) ⟨heap, stack, .ref a :: altStack⟩ a
      cell (v :: vs) := by
  unfold AppendsFields at hrest ⊢
  unfold Pushes at hcode
  dsimp only at hrest hcode ⊢
  obtain ⟨heap₁, item, hrun₁, hpre₁, hreads₁⟩ := hcode
  have ha : a < heap.length := (List.getElem?_eq_some_iff.1 hcell).1
  have hlen₁ := hpre₁.length_le
  have hcell₁ : heap₁[a]? = some (.struct, cell) :=
    (Agree.of_prefix hpre₁ (Nat.succ_le_of_lt ha) a le_rfl (Nat.lt_succ_self a)).trans hcell
  obtain ⟨heap₃, items, hrun₃, hlen₃, hlo₃, hhi₃, hcell₃, hreads₃⟩ :=
    hrest (heap₁.set a (.struct, cell ++ [item])) (cell ++ [item]) (List.getElem?_set_self (by omega))
  simp only [List.length_set] at hlen₃ hhi₃ hreads₃
  have hset : ∀ {lo hi : Nat}, a < lo ∨ hi ≤ a →
      Agree heap₁ (heap₁.set a (.struct, cell ++ [item])) lo hi := Agree.set _
  refine ⟨heap₃, item :: items, ?_, by omega, ?_, ?_, by simpa using hcell₃, .cons ?_ ?_⟩
  · simp only [run_append, hrun₁, Option.some_bind, run_appendField item stack altStack hcell₁,
      hrun₃]
  · exact (Agree.of_prefix hpre₁ ha.le).trans ((hset (.inr le_rfl)).trans hlo₃)
  · exact (Agree.of_prefix hpre₁ le_rfl).trans
      ((hset (.inl (Nat.lt_succ_self a))).trans (hhi₃.sub le_rfl hlen₁))
  · exact hreads₁.mono le_rfl (by omega) ((hset (.inl ha)).trans (hhi₃.sub ha le_rfl))
  · exact hreads₃.mono hlen₁ le_rfl (Agree.refl _ _ _)

theorem byteElements_pushes (bs : Bytes) (e : ExecutionEngine) :
    PushesAll (byteElements bs) e (bs.map fun b => .integer b.toNat) := by
  induction bs with
  | nil => exact PushesAll.nil e
  | cons b bs ih =>
    rw [byteElements, List.map_cons, List.reverse_cons]
    exact ih.cons fun e' => Pushes.push e' rfl (.integer _)

theorem Pushes.ofList {ps : List Param} {code : List Instr} {e : ExecutionEngine}
    (h : packList ps.length <$> BuildNeoVMParam ps = .ok code)
    (ih : ∀ c, BuildNeoVMParam ps = .ok c → ∀ e, PushesAll c e (Param.toValues ps)) :
    Pushes code e (.array (Param.toValues ps)) := by
  obtain ⟨c, hc, rfl⟩ := map_eq_ok.1 h
  simpa using (ih c hc e).packList

theorem Pushes.ofFields {fields : List Param} {code : List Instr} {e : ExecutionEngine}
    (h : packStruct <$> buildFields fields = .ok code)
    (ih : ∀ c, buildFields fields = .ok c → ∀ heap stack a altStack cell,
      heap[a]? = some (.struct, cell) →
        AppendsFields c ⟨heap, stack, .ref a :: altStack⟩ a cell (Param.toValues fields)) :
    Pushes code e (.struct (Param.toValues fields)) := by
  obtain ⟨c, hc, rfl⟩ := map_eq_ok.1 h
  exact AppendsFields.packStruct (ih c hc _ _ _ _ _ (by simp))

mutual
theorem buildParam_pushes : ∀ (p : Param) (code : List Instr), buildParam p = .ok code →
    p.uintsFit → ∀ e, Pushes code e p.toValue
  | .bool v, _, h, _, e => by cases h; exact Pushes.push e rfl (.boolean v)
  | .byte v, _, h, _, e => by cases h; exact Pushes.push e rfl (.integer _)
  | .int v, _, h, _, e => by cases h; exact Pushes.push e rfl (.integer _)
  | .uint v, _, h, hfit, e => by
    cases h
    have hv : v.toNat < 9223372036854775808 := by simpa [Param.uintsFit] using hfit
    exact Pushes.push e rfl (by rw [uint_toInt hv]; exact .integer _)
  | .int32 v, _, h, _, e => by cases h; exact Pushes.push e rfl (.integer _)
  | .uint32 v, _, h, _, e => by cases h; exact Pushes.push e rfl (.integer _)
  | .int64 v, _, h, _, e => by cases h; exact Pushes.push e rfl (.integer _)
  | .fixed64 v, _, h, _, e => by cases h; exact Pushes.push e rfl (.integer _)
  | .uint64 v, _, h, _, e => by cases h; exact Pushes.push e rfl (.integer _)
  | .string v, _, h, _, e => by cases h; exact Pushes.push e rfl (.byteArray _)
  | .bigInt v, _, h, _, e => by cases h; exact Pushes.push e rfl (.integer _)
  | .bytes v, _, h, _, e => by cases h; exact Pushes.push e rfl (.byteArray _)
  | .address v, _, h, _, e => by cases h; exact Pushes.push e rfl (.byteArray _)
  | .uint256 v, _, h, _, e => by cases h; exact Pushes.push e rfl (.byteArray _)
  | .list ps, _, h, hfit, _ => Pushes.ofList h fun c hc => BuildNeoVMParam_pushes ps c hc hfit
  | .slice ps, _, h, hfit, _ => Pushes.ofList h fun c hc => BuildNeoVMParam_pushes ps c hc hfit
  | .struct fields, _, h, hfit, _ => Pushes.ofFields h fun c hc => buildFields_appends fields c hc hfit
  | .ptr target text, code, h, hfit, e => by
    cases target with
    | list ps => exact Pushes.ofList h fun c hc => BuildNeoVMParam_pushes ps c hc hfit
    | slice ps => exact Pushes.ofList h fun c hc => BuildNeoVMParam_pushes ps c hc hfit
    | struct fields => exact Pushes.ofFields h fun c hc => buildFields_appends fields c hc hfit
    | bytes bs =>
      cases h
      simpa using (byteElements_pushes bs e).packList
    | _ => simp [buildParam] at h
  | .other text, _, h, _, _ => by simp [buildParam] at h

theorem BuildNeoVMParam_pushes : ∀ (ps : List Param) (code : List Instr),
    BuildNeoVMParam ps = .ok code → Param.allUintsFit ps → ∀ e, PushesAll code e (Param.toValues ps)
  | [], _, h, _, e => by cases h; exact PushesAll.nil e
  | p :: ps, code, h, hfit, e => by
    rw [BuildNeoVMParam] at h
    obtain ⟨later, hlater, h⟩ := bind_eq_ok.1 h
    obtain ⟨c, hc, h⟩ := bind_eq_ok.1 h
    cases h
    simp only [Param.allUintsFit, Bool.and_eq_true] at hfit
    exact (BuildNeoVMParam_pushes ps later hlater hfit.2 e).cons (buildParam_pushes p c hc hfit.1)

theorem buildFields_appends : ∀ (fields : List Param) (code : List Instr),
    buildFields fields = .ok code → Param.allUintsFit fields →
      ∀ heap stack a altStack cell, heap[a]? = some (.struct, cell) →
        AppendsFields code ⟨heap, stack, .ref a :: altStack⟩ a cell (Param.toValues fields)
  | [], _, h, _, heap, _, _, _, _, hcell => by
    cases h
    exact ⟨heap, [], rfl, le_rfl, Agree.refl _ _ _, Agree.refl _ _ _, by simpa using hcell, .nil⟩
  | field :: fields, code, h, hfit, heap, stack, a, altStack, cell, hcell => by
    rw [buildFields] at h
    obtain ⟨c, hc, h⟩ := bind_eq_ok.1 h
    obtain ⟨rest, hrest, h⟩ := bind_eq_ok.1 h
    cases h
    simp only [Param.allUintsFit, Bool.and_eq_true] at hfit
    exact AppendsFields.cons hcell (buildParam_pushes field c hc hfit.1 _) fun heap' cell' hcell' =>
      buildFields_appends fields rest hrest hfit.2 heap' stack a altStack cell' hcell'
end

theorem BuildNeoVMParam_run {params : List Param} {code : List Instr}
    (hcode : BuildNeoVMParam params = .ok code) (hfit : Param.allUintsFit params) :
    ∃ heap items, run code .empty = some ⟨heap, items, []⟩ ∧
      ReadsAll heap 0 heap.length items (Param.toValues params) := by
  obtain ⟨heap, items, hrun, -, hreads⟩ := BuildNeoVMParam_pushes params code hcode hfit .empty
  exact ⟨heap, items, by simpa [ExecutionEngine.empty] using hrun, hreads⟩

/-- **The builder's correctness.** For every parameter list `BuildNeoVMParam` accepts whose
`uint`s are below `2^63`, its code run on an empty machine leaves one item per parameter, the
first parameter's on top, each reading back as the value the parameter stands for. -/
theorem BuildNeoVMParam_pushes_params {params : List Param} {code : List Instr}
    (hcode : BuildNeoVMParam params = .ok code) (hfit : Param.allUintsFit params) :
    ∃ heap items, run code .empty = some ⟨heap, items, []⟩ ∧ items.length = params.length ∧
      ReadsAll heap 0 heap.length items (Param.toValues params) := by
  obtain ⟨heap, items, hrun, hreads⟩ := BuildNeoVMParam_run hcode hfit
  exact ⟨heap, items, hrun, by simpa using hreads.length_eq, hreads⟩

theorem BuildNeoVMParam_map {α : Type} (f : α → Param) (i : α → Instr)
    (hf : ∀ x, buildParam (f x) = .ok [i x]) :
    ∀ xs : List α, BuildNeoVMParam (xs.map f) = .ok (xs.reverse.map i)
  | [] => rfl
  | x :: xs => by
    rw [List.map_cons, BuildNeoVMParam, BuildNeoVMParam_map f i hf xs, hf x]
    simp [bind, Except.bind, pure, Except.pure]

theorem Param.toValues_map {α : Type} (f : α → Param) :
    ∀ xs : List α, Param.toValues (xs.map f) = xs.map fun x => (f x).toValue
  | [] => rfl
  | x :: xs => by rw [List.map_cons, Param.toValues, Param.toValues_map f xs, List.map_cons]

theorem Param.allUintsFit_map {α : Type} (f : α → Param) (hf : ∀ x, (f x).uintsFit = true) :
    ∀ xs : List α, Param.allUintsFit (xs.map f) = true
  | [] => rfl
  | x :: xs => by rw [List.map_cons, Param.allUintsFit, hf x, Param.allUintsFit_map f hf xs]; rfl

/-- Code that calls `contract` with `values`: run on an empty machine, the code before its
final `APPCALL` leaves one item per value, the first on top, each reading back as its value. -/
def Invokes (code : List Instr) (contract : Address) (values : List Value) : Prop :=
  ∃ pre heap items, code = pre ++ [.appCall contract] ∧ run pre .empty = some ⟨heap, items, []⟩ ∧
    ReadsAll heap 0 heap.length items values

theorem BuildNeoVMInvokeCode_invokes {contract : Address} {params : List Param}
    {code : List Instr} (hcode : BuildNeoVMInvokeCode contract params = .ok code)
    (hfit : Param.allUintsFit params) : Invokes code contract (Param.toValues params) := by
  obtain ⟨pre, hpre, h⟩ := bind_eq_ok.1 hcode
  cases h
  obtain ⟨heap, items, hrun, hreads⟩ := BuildNeoVMParam_run hpre hfit
  exact ⟨pre, heap, items, rfl, hrun, hreads⟩

/-- The shape of the operator's `updateState` call: the method, then a list of the states
root's hex text, the height, the version, and slices of deposit ids, withdrawal amounts,
target addresses and asset addresses. -/
def updateStateParams : List Param :=
  [.string "updateState", .list [.string "00", .uint32 1, .string "1", .slice [.uint64 3],
    .slice [.uint64 100], .slice [.address 7], .slice [.bytes [1, 2]]]]

def updateStateCode : List Instr :=
  [.pushByteArray [1, 2], .pushInteger 1, .pack,
    .pushByteArray (arrayBytes 20 (7 : Address)), .pushInteger 1, .pack,
    .pushInteger 100, .pushInteger 1, .pack, .pushInteger 3, .pushInteger 1, .pack,
    .pushByteArray [49], .pushInteger 1, .pushByteArray [48, 48], .pushInteger 7, .pack,
    .pushByteArray "updateState".toUTF8.data.toList]

theorem updateState_params_pushed :
    BuildNeoVMParam updateStateParams = .ok updateStateCode ∧ Param.allUintsFit updateStateParams ∧
      ∃ heap items, run updateStateCode .empty = some ⟨heap, items, []⟩ ∧
        items.length = updateStateParams.length ∧
        ReadsAll heap 0 heap.length items (Param.toValues updateStateParams) :=
  ⟨rfl, rfl, BuildNeoVMParam_pushes_params rfl rfl⟩

/-- A `uint` with its top bit set goes through `int64(v)`: the code for the parameter `2^63`
pushes `-2^63`, which does not read back as the parameter on any heap. -/
theorem uint_top_bit_pushed_negative :
    BuildNeoVMParam [.uint 9223372036854775808] = .ok [.pushInteger (-9223372036854775808)] ∧
      run [.pushInteger (-9223372036854775808)] .empty =
        some ⟨[], [.integer (-9223372036854775808)], []⟩ ∧
      Param.toValues [.uint 9223372036854775808] = [.integer 9223372036854775808] ∧
      ¬ ∃ heap : List Cell, ReadsAll heap 0 heap.length [.integer (-9223372036854775808)]
        [.integer 9223372036854775808] := by
  refine ⟨rfl, rfl, rfl, ?_⟩
  rintro ⟨heap, h⟩
  rcases h with _ | ⟨h, -⟩
  cases h

/-- At the `SYSCALL` of a native invoke, the stack holds the version, the contract's address
and the method over the parameters, as `BuildNeoVMParam` left them. -/
theorem BuildNativeInvokeCode_args {contractAddress : Address} {version : UInt8} {method : String}
    {params : List Param} {code : List Instr}
    (hcode : BuildNativeInvokeCode contractAddress version method params = .ok code)
    (hfit : Param.allUintsFit params) :
    ∃ pre heap items, code = pre ++ [.sysCall, .pushByteArray NATIVE_INVOKE_NAME.toUTF8.data.toList] ∧
      run pre .empty = some ⟨heap, .integer version.toNat ::
        .byteArray (arrayBytes 20 contractAddress) :: .byteArray method.toUTF8.data.toList :: items, []⟩ ∧
      ReadsAll heap 0 heap.length items (Param.toValues params) := by
  obtain ⟨c, hc, h⟩ := bind_eq_ok.1 hcode
  cases h
  obtain ⟨heap, items, hrun, hreads⟩ := BuildNeoVMParam_run hc hfit
  refine ⟨c ++ [.pushByteArray method.toUTF8.data.toList, .pushByteArray (arrayBytes 20 contractAddress),
    .pushInteger version.toNat], heap, items, by simp, ?_, hreads⟩
  simp [run_append, hrun, step]

theorem native_transfer_args :
    BuildNativeInvokeCode 1 0 "transfer" [.int 5] =
        .ok [.pushInteger 5, .pushByteArray "transfer".toUTF8.data.toList,
          .pushByteArray (arrayBytes 20 (1 : Address)), .pushInteger 0, .sysCall,
          .pushByteArray NATIVE_INVOKE_NAME.toUTF8.data.toList] ∧
      Param.allUintsFit [.int 5] ∧
      ∃ pre heap items, [Instr.pushInteger 5, .pushByteArray "transfer".toUTF8.data.toList,
          .pushByteArray (arrayBytes 20 (1 : Address)), .pushInteger 0, .sysCall,
          .pushByteArray NATIVE_INVOKE_NAME.toUTF8.data.toList] =
          pre ++ [.sysCall, .pushByteArray NATIVE_INVOKE_NAME.toUTF8.data.toList] ∧
        run pre .empty = some ⟨heap, .integer (0 : UInt8).toNat ::
          .byteArray (arrayBytes 20 (1 : Address)) :: .byteArray "transfer".toUTF8.data.toList :: items, []⟩ ∧
        ReadsAll heap 0 heap.length items (Param.toValues [.int 5]) :=
  ⟨rfl, rfl, BuildNativeInvokeCode_args rfl rfl⟩

end Layer2.NeoVM
