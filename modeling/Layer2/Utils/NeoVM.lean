import Layer2.Common.Basic

/-! # The NeoVM stack machine, as parameter code meets it

The instructions `BuildNeoVMParam` emits, with their NeoVM meaning. Arrays and structs are
references: they live on a heap of cells, and `Reads heap lo hi item value` reads an item back
through cells in `[lo, hi)` only, so that code writing outside that range leaves what it reads
unchanged. A call (`SYSCALL`, or the `APPCALL` byte of an invoke) leaves the part of the
machine modelled here.
-/

namespace Layer2.NeoVM

/-- What `ParamsBuilder` emits: `EmitPushBool`, `EmitPushInteger`, `EmitPushByteArray`, the
opcodes `Emit` writes, and the `APPCALL` byte with its address. `EmitPushInteger` picks
`PUSHM1`, `PUSH0` to `PUSH16` or a byte array by the integer's value; each reads back as that
integer, which `pushInteger` pushes. -/
inductive Instr
  | pushBool (b : Bool)
  | pushInteger (n : Int)
  | pushByteArray (bs : Bytes)
  | pack
  | newStruct
  | toAltStack
  | dupFromAltStack
  | swap
  | append
  | fromAltStack
  | sysCall
  | appCall (address : Address)
  deriving DecidableEq, Repr

inductive StackItem
  | boolean (b : Bool)
  | integer (n : Int)
  | byteArray (bs : Bytes)
  | ref (address : Nat)
  deriving DecidableEq, Repr

inductive Compound
  | array
  | struct
  deriving DecidableEq, Repr

abbrev Cell := Compound × List StackItem

structure ExecutionEngine where
  heap : List Cell
  evaluationStack : List StackItem
  altStack : List StackItem
  deriving DecidableEq, Repr

def ExecutionEngine.empty : ExecutionEngine := ⟨[], [], []⟩

/-- One instruction; `none` is a fault. `PACK` takes the `n` items under the count, the top
one first, and `NEWSTRUCT` fills a struct of `n` fields with `false`. NeoVM's `APPEND` appends a
copy of a struct (`Struct.Clone`); the builder appends each struct it has just built, with no
other reference to it left on either stack, so the copy and the original read alike and the
copy is left out. -/
def step (e : ExecutionEngine) : Instr → Option ExecutionEngine
  | .pushBool b => some { e with evaluationStack := .boolean b :: e.evaluationStack }
  | .pushInteger n => some { e with evaluationStack := .integer n :: e.evaluationStack }
  | .pushByteArray bs => some { e with evaluationStack := .byteArray bs :: e.evaluationStack }
  | .pack =>
    match e.evaluationStack with
    | .integer n :: rest =>
      if 0 ≤ n ∧ n.toNat ≤ rest.length then
        some { e with heap := e.heap ++ [(.array, rest.take n.toNat)],
                      evaluationStack := .ref e.heap.length :: rest.drop n.toNat }
      else none
    | _ => none
  | .newStruct =>
    match e.evaluationStack with
    | .integer n :: rest =>
      if 0 ≤ n then
        some { e with heap := e.heap ++ [(.struct, List.replicate n.toNat (.boolean false))],
                      evaluationStack := .ref e.heap.length :: rest }
      else none
    | _ => none
  | .toAltStack =>
    match e.evaluationStack with
    | item :: rest => some { e with evaluationStack := rest, altStack := item :: e.altStack }
    | [] => none
  | .dupFromAltStack =>
    match e.altStack with
    | item :: _ => some { e with evaluationStack := item :: e.evaluationStack }
    | [] => none
  | .swap =>
    match e.evaluationStack with
    | x :: y :: rest => some { e with evaluationStack := y :: x :: rest }
    | _ => none
  | .append =>
    match e.evaluationStack with
    | item :: .ref a :: rest =>
      match e.heap[a]? with
      | some (kind, items) =>
        some { e with heap := e.heap.set a (kind, items ++ [item]), evaluationStack := rest }
      | none => none
    | _ => none
  | .fromAltStack =>
    match e.altStack with
    | item :: rest => some { e with evaluationStack := item :: e.evaluationStack, altStack := rest }
    | [] => none
  | .sysCall | .appCall _ => none

def run : List Instr → ExecutionEngine → Option ExecutionEngine
  | [], e => some e
  | i :: is, e => (step e i).bind (run is)

@[simp] theorem run_nil (e : ExecutionEngine) : run [] e = some e := rfl

@[simp] theorem run_cons (i : Instr) (is : List Instr) (e : ExecutionEngine) :
    run (i :: is) e = (step e i).bind (run is) := rfl

theorem run_append (c d : List Instr) (e : ExecutionEngine) :
    run (c ++ d) e = (run c e).bind (run d) := by
  induction c generalizing e with
  | nil => rfl
  | cons i c ih => cases h : step e i <;> simp [h, ih]

/-- `EmitPushInteger(len)` and `PACK` over the items just pushed: the array holds them with the
top one first. -/
theorem run_pack (heap : List Cell) (items stack altStack : List StackItem) :
    run [.pushInteger items.length, .pack] ⟨heap, items ++ stack, altStack⟩ =
      some ⟨heap ++ [(.array, items)], .ref heap.length :: stack, altStack⟩ := by
  simp [step, Int.ofNat_nonneg]

/-- `DUPFROMALTSTACK`, `SWAP`, `APPEND`: the item on top joins the compound the alt stack's
top points to. -/
theorem run_appendField {heap : List Cell} {a : Nat} {kind : Compound} {items : List StackItem}
    (item : StackItem) (stack altStack : List StackItem) (ha : heap[a]? = some (kind, items)) :
    run [.dupFromAltStack, .swap, .append] ⟨heap, item :: stack, .ref a :: altStack⟩ =
      some ⟨heap.set a (kind, items ++ [item]), stack, .ref a :: altStack⟩ := by
  simp [step, ha]

/-- What a parameter is on the stack: a boolean, an integer, a byte array, or an array or a
struct of such values. -/
inductive Value
  | bool (b : Bool)
  | integer (n : Int)
  | bytes (bs : Bytes)
  | array (vs : List Value)
  | struct (vs : List Value)
  deriving Repr

mutual
/-- `item` reads back as `value` on `heap`, through cells in `[lo, hi)` only. -/
inductive Reads (heap : List Cell) (lo hi : Nat) : StackItem → Value → Prop
  | boolean (b : Bool) : Reads heap lo hi (.boolean b) (.bool b)
  | integer (n : Int) : Reads heap lo hi (.integer n) (.integer n)
  | byteArray (bs : Bytes) : Reads heap lo hi (.byteArray bs) (.bytes bs)
  | array {a : Nat} {items : List StackItem} {vs : List Value} (hlo : lo ≤ a) (hhi : a < hi)
      (hcell : heap[a]? = some (.array, items)) (hitems : ReadsAll heap lo hi items vs) :
      Reads heap lo hi (.ref a) (.array vs)
  | struct {a : Nat} {items : List StackItem} {vs : List Value} (hlo : lo ≤ a) (hhi : a < hi)
      (hcell : heap[a]? = some (.struct, items)) (hitems : ReadsAll heap lo hi items vs) :
      Reads heap lo hi (.ref a) (.struct vs)

inductive ReadsAll (heap : List Cell) (lo hi : Nat) : List StackItem → List Value → Prop
  | nil : ReadsAll heap lo hi [] []
  | cons {item : StackItem} {items : List StackItem} {v : Value} {vs : List Value} :
      Reads heap lo hi item v → ReadsAll heap lo hi items vs →
        ReadsAll heap lo hi (item :: items) (v :: vs)
end

def Agree (heap heap' : List Cell) (lo hi : Nat) : Prop :=
  ∀ a, lo ≤ a → a < hi → heap'[a]? = heap[a]?

section Frame

variable {heap heap' : List Cell} {lo hi lo' hi' : Nat}

mutual
/-- The frame rule: an item reads the same on any heap that holds the same cells in its range,
and in any wider range. -/
theorem Reads.mono (hlo : lo' ≤ lo) (hhi : hi ≤ hi') (hagree : Agree heap heap' lo hi) :
    ∀ {item : StackItem} {v : Value}, Reads heap lo hi item v → Reads heap' lo' hi' item v
  | _, _, .boolean b => .boolean b
  | _, _, .integer n => .integer n
  | _, _, .byteArray bs => .byteArray bs
  | _, _, .array ha hb hcell hitems =>
    .array (by omega) (by omega) ((hagree _ ha hb).trans hcell) (ReadsAll.mono hlo hhi hagree hitems)
  | _, _, .struct ha hb hcell hitems =>
    .struct (by omega) (by omega) ((hagree _ ha hb).trans hcell) (ReadsAll.mono hlo hhi hagree hitems)

theorem ReadsAll.mono (hlo : lo' ≤ lo) (hhi : hi ≤ hi') (hagree : Agree heap heap' lo hi) :
    ∀ {items : List StackItem} {vs : List Value},
      ReadsAll heap lo hi items vs → ReadsAll heap' lo' hi' items vs
  | _, _, .nil => .nil
  | _, _, .cons h hs => .cons (Reads.mono hlo hhi hagree h) (ReadsAll.mono hlo hhi hagree hs)
end

theorem ReadsAll.length_eq : ∀ {items : List StackItem} {vs : List Value},
    ReadsAll heap lo hi items vs → items.length = vs.length
  | _, _, .nil => rfl
  | _, _, .cons _ hs => congrArg (· + 1) hs.length_eq

theorem Agree.refl (heap : List Cell) (lo hi : Nat) : Agree heap heap lo hi := fun _ _ _ => rfl

theorem Agree.of_prefix (h : heap <+: heap') (hhi : hi ≤ heap.length) : Agree heap heap' lo hi := by
  obtain ⟨t, rfl⟩ := h
  exact fun a _ ha => List.getElem?_append_left (by omega)

theorem Agree.set {a : Nat} (c : Cell) (ha : a < lo ∨ hi ≤ a) : Agree heap (heap.set a c) lo hi :=
  fun b hb hb' => List.getElem?_set_ne (by omega)

theorem Agree.sub (h : Agree heap heap' lo hi) (hlo : lo ≤ lo') (hhi : hi' ≤ hi) :
    Agree heap heap' lo' hi' :=
  fun a ha hb => h a (by omega) (by omega)

theorem Agree.trans {heap'' : List Cell} (h : Agree heap heap' lo hi) (h' : Agree heap' heap'' lo hi) :
    Agree heap heap'' lo hi :=
  fun a ha hb => (h' a ha hb).trans (h a ha hb)

theorem prefix_of_agree (h : Agree heap heap' 0 heap.length) :
    heap <+: heap' := by
  rw [List.prefix_iff_eq_take]
  refine List.ext_getElem? fun a => ?_
  by_cases ha : a < heap.length
  · rw [List.getElem?_take_of_lt ha, h a (Nat.zero_le a) ha]
  · rw [List.getElem?_eq_none (by omega), List.getElem?_eq_none (by simp; omega)]

end Frame

end Layer2.NeoVM
